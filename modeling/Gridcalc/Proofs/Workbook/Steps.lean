import Gridcalc.Proofs.Workbook.WellFormed

/-!
# The steps that operations are made of

Every operation, apart from the filter, is a sequence of a few kinds of steps. Between them it is
known which cells were changed since the last pass.

* `Progress`: a workbook with the cells that the next pass has to start from;
* `Step`: one step, `Steps`: some steps one after another;
* `Step.wellFormed`, `Steps.wellFormed`: steps keep a workbook well-formed;
* `Step.mirrored`, `Steps.mirrored`: they keep both directions of the graph in line;
* `Workbook.Consistent`: what else they keep, that is, both directions of the graph say the same,
  nothing superfluous is stored, and a closed batch has nothing set aside.
-/

namespace Gridcalc

open Relation

/-! ## 1. Steps -/

/-- A workbook on its way, with the cells that the next pass has to start from. -/
structure Progress where
  book : Workbook
  owed : List CellKey := []

namespace Workbook

/-- The workbook with another batch for a sheet. -/
def setBatch (wb : Workbook) (i : Nat) (batch : Batch) : Workbook :=
  { wb with tabs := wb.tabs.modify i fun tab => { tab with batch } }

/-- The workbook with other tabs, its formulas read anew. -/
def reread (wb : Workbook) (tabs : List Tab) : Workbook := readAll { wb with tabs }

@[simp] theorem sheets_setBatch (wb : Workbook) (i : Nat) (batch : Batch) :
    (wb.setBatch i batch).sheets = wb.sheets := by
  refine List.ext_getElem? fun j => ?_
  simp only [sheets, setBatch, List.getElem?_map, List.getElem?_modify]
  cases wb.tabs[j]? with
  | none => rfl
  | some tab =>
    simp only [Option.map_eq_map, Option.map_some]
    split <;> rfl

theorem batchAt_setBatch (wb : Workbook) (i j : Nat) (batch : Batch) :
    (wb.setBatch i batch).batchAt j =
      if i = j ∧ j < wb.tabs.length then batch else wb.batchAt j := by
  unfold batchAt setBatch
  rw [List.getElem?_modify]
  cases htab : wb.tabs[j]? with
  | none =>
    have hlen := List.getElem?_eq_none_iff.mp htab
    rw [if_neg (by omega)]
    rfl
  | some tab =>
    have hlen := (List.getElem?_eq_some_iff.mp htab).1
    by_cases hi : i = j
    · simp [hi, hlen]
    · simp [hi]

end Workbook

/-- The steps: putting a cell, styling one, a pass from all cells owed, reading the formulas of
    other tabs, opening and closing a batch, and changing what belongs to no sheet. -/
inductive Step : Progress → Progress → Prop
  | put {wb : Workbook} {owed : List CellKey} {key : CellKey} (h : wb.InGrid key) (cell : Cell) :
    Step ⟨wb, owed⟩ ⟨wb.put key cell, key :: owed⟩
  | restyle {wb : Workbook} {owed : List CellKey} {key : CellKey} (h : wb.InGrid key)
    (style : Nat) : Step ⟨wb, owed⟩ ⟨wb.restyle key style, owed⟩
  | pass {wb : Workbook} {owed seeds : List CellKey} (h : ∀ key ∈ owed, key ∈ seeds) :
    Step ⟨wb, owed⟩ ⟨(wb.recalculate seeds).2, []⟩
  | reread {wb : Workbook} {owed : List CellKey} {tabs : List Tab}
    (h : SheetsWellFormed (tabs.map Tab.sheet)) (hclean : ∀ tab ∈ tabs, tab.batch.dirty = ∅)
    (htight : (∀ ws ∈ wb.sheets, ws.store.Tight) → ∀ tab ∈ tabs, tab.sheet.store.Tight) :
    Step ⟨wb, owed⟩ ⟨wb.reread tabs, (wb.reread tabs).calcState.formulas.keys⟩
  | openBatch {wb : Workbook} {owed : List CellKey} (i : Nat) :
    Step ⟨wb, owed⟩ ⟨wb.setBatch i { wb.batchAt i with isOpen := true }, owed⟩
  | closeBatch {wb : Workbook} {owed : List CellKey} (i : Nat) :
    Step ⟨wb, owed⟩ ⟨wb.setBatch i {}, (wb.batchAt i).dirty.toList ++ owed⟩
  | configure {wb : Workbook} {owed : List CellKey} (settings : Settings)
    (evaluatesVolatile : Bool) (ambient : Ambient) :
    Step ⟨wb, owed⟩ ⟨{ wb with settings, evaluatesVolatile, ambient }, owed⟩

/-- Some steps one after another. -/
abbrev Steps : Progress → Progress → Prop := ReflTransGen Step

/-! ## 2. Steps keep a workbook well-formed -/

/-- **A step keeps a workbook well-formed.** -/
theorem Step.wellFormed {s s' : Progress} (hstep : Step s s') (h : s.book.WellFormed) :
    s'.book.WellFormed := by
  cases hstep with
  | put hin cell => exact h.put hin cell
  | restyle hin style => exact h.restyle hin style
  | pass hseeds => exact h.recalculate _
  | reread hs _ _ => exact Workbook.wellFormed_readAll hs
  | openBatch i => exact h.of_eq (Workbook.sheets_setBatch _ _ _) rfl
  | closeBatch i => exact h.of_eq (Workbook.sheets_setBatch _ _ _) rfl
  | configure settings evaluatesVolatile ambient => exact h.of_eq rfl rfl

theorem Steps.wellFormed {s s' : Progress} (hsteps : Steps s s') (h : s.book.WellFormed) :
    s'.book.WellFormed := by
  induction hsteps with
  | refl => exact h
  | tail _ hstep ih => exact hstep.wellFormed ih

/-! ## 3. Both directions of the graph -/

namespace Workbook

variable {wb : Workbook}

theorem mirrored_register (h : wb.calcState.graph.Mirrored) (key : CellKey) :
    (wb.register key).calcState.graph.Mirrored := by
  unfold register
  split
  · exact h.removePrecedents
  · exact h.setPrecedents _

theorem mirrored_put (h : wb.calcState.graph.Mirrored) (key : CellKey) (cell : Cell) :
    (wb.put key cell).calcState.graph.Mirrored := by
  cases hws : wb.sheets[key.sheet]? with
  | none =>
    have he : wb.put key cell = wb := by simp only [Workbook.put, hws]
    rwa [he]
  | some ws =>
    rw [put_eq hws]
    exact @mirrored_register (wb.withSheet key.sheet (ws.putCell key.row key.col cell)) h key

end Workbook

/-! ## 4. What else they keep -/

namespace CalcState

variable {state : CalcState}

/-- Both directions of the graph say the same, and it keeps no cell without edges. -/
structure Neat (state : CalcState) : Prop where
  mirrored : state.graph.Mirrored
  tight : state.graph.Tight

theorem neat_empty : Neat {} := ⟨Graph.mirrored_empty, Graph.tight_empty⟩

theorem Neat.forget (h : state.Neat) (key : CellKey) : (state.forget key).Neat :=
  ⟨h.mirrored.removePrecedents, h.tight.removePrecedents⟩

theorem Neat.note (h : state.Neat) (key : CellKey) (root : Option Expr) (ps : List CellKey) :
    (state.note key root ps).Neat :=
  ⟨h.mirrored.setPrecedents ps, h.tight.setPrecedents ps⟩

end CalcState

namespace Workbook

variable {wb : Workbook}

theorem neat_register (h : wb.calcState.Neat) (key : CellKey) :
    (wb.register key).calcState.Neat := by
  unfold register
  split
  · exact h.forget key
  · exact h.note key _ _

theorem neat_readAll (wb : Workbook) : wb.readAll.calcState.Neat := by
  have hfold : ∀ (keys : List CellKey) (wb : Workbook), wb.calcState.Neat →
      (keys.foldl register wb).calcState.Neat := by
    intro keys
    induction keys with
    | nil => exact fun wb h => h
    | cons key keys ih => exact fun wb h => ih _ (neat_register h key)
  exact hfold _ _ CalcState.neat_empty

/-- A workbook without anything superfluous: a neat graph, no empty rows, and nothing set aside for
    a closed batch. -/
structure Consistent (wb : Workbook) : Prop where
  neat : wb.calcState.Neat
  tight : ∀ ws ∈ wb.sheets, ws.store.Tight
  clean : ∀ i, (wb.batchAt i).isOpen = false → (wb.batchAt i).dirty = ∅

theorem consistent_create (settings : Settings) (ambient : Ambient) :
    (create settings ambient).Consistent where
  neat := CalcState.neat_empty
  tight := by
    intro ws hws
    simp only [create, sheets, List.map_cons, List.map_nil, List.mem_singleton] at hws
    subst hws
    exact CellStore.tight_empty
  clean := by
    intro i _
    cases i <;> simp [batchAt, create]

theorem tight_set {sheets : List Worksheet} (h : ∀ ws ∈ sheets, ws.store.Tight) {i : Nat}
    {ws : Worksheet} (hws : ws.store.Tight) : ∀ x ∈ sheets.set i ws, x.store.Tight := by
  intro x hx
  rcases List.mem_or_eq_of_mem_set hx with hx | rfl
  · exact h x hx
  · exact hws

theorem Consistent.put (h : wb.Consistent) (key : CellKey) (cell : Cell) :
    (wb.put key cell).Consistent := by
  cases hws : wb.sheets[key.sheet]? with
  | none =>
    have he : wb.put key cell = wb := by simp only [Workbook.put, hws]
    rwa [he]
  | some ws =>
    refine ⟨?_, ?_, fun i => ?_⟩
    · have hneat : (wb.withSheet key.sheet (ws.putCell key.row key.col cell)).calcState.Neat :=
        h.neat
      rw [put_eq hws]
      exact neat_register hneat key
    · rw [sheets_put hws]
      exact tight_set h.tight ((h.tight ws (List.mem_of_getElem? hws)).set cell)
    · rw [batchAt_put]
      exact h.clean i

theorem Consistent.restyle (h : wb.Consistent) (key : CellKey) (style : Nat) :
    (wb.restyle key style).Consistent := by
  refine ⟨?_, ?_, fun i => ?_⟩
  · rw [restyle_calcState]
    exact h.neat
  · cases hws : wb.sheets[key.sheet]? with
    | none =>
      have he : wb.restyle key style = wb := by simp only [Workbook.restyle, hws]
      rw [he]
      exact h.tight
    | some ws =>
      rw [sheets_restyle hws]
      have htouch : (ws.store.touch key.row key.col).Tight :=
        (h.tight ws (List.mem_of_getElem? hws)).touch
      have hstyle : ((ws.store.touch key.row key.col).modify key.row key.col
          (·.withStyle style)).Tight := htouch.modify _
      refine tight_set h.tight ?_
      simp only [Worksheet.restyled]
      split
      · exact hstyle.set _
      · exact hstyle
  · rw [batchAt_restyle]
    exact h.clean i

theorem Consistent.recalculate (h : wb.Consistent) (seeds : List CellKey) :
    (wb.recalculate seeds).2.Consistent := by
  refine ⟨h.neat, ?_, fun i hclosed => ?_⟩
  · rw [recalculate_sheets]
    exact forall_mem_performTasks h.tight fun _ _ _ _ htight => htight.modify _
  · obtain ⟨hopen, hdirty⟩ := recalculate_batchAt wb seeds i
    rw [hopen] at hclosed
    refine Std.ExtTreeSet.ext_mem fun k => ?_
    rw [hdirty, h.clean i hclosed]
    have hnone : ¬(k.sheet = i ∧ k ∈ wb.waitingCells seeds) := by
      intro h
      obtain ⟨rfl, hk⟩ := h
      have hwait := (mem_waitingCells.mp hk).2
      rw [isUpdating_eq, hclosed] at hwait
      cases hwait
    simp [hnone]

/-- Other tabs come with nothing set aside. -/
theorem dirty_reread {tabs : List Tab} (hclean : ∀ tab ∈ tabs, tab.batch.dirty = ∅) (i : Nat) :
    ((wb.reread tabs).batchAt i).dirty = ∅ := by
  have htabs : (wb.reread tabs).tabs = tabs := by rw [reread, readAll_tabs]
  unfold batchAt
  rw [htabs]
  cases htab : tabs[i]? with
  | none => rfl
  | some tab => exact hclean tab (List.mem_of_getElem? htab)

theorem consistent_reread {tabs : List Tab} (hclean : ∀ tab ∈ tabs, tab.batch.dirty = ∅)
    (htight : ∀ tab ∈ tabs, tab.sheet.store.Tight) : (wb.reread tabs).Consistent := by
  refine ⟨neat_readAll _, ?_, fun i _ => dirty_reread hclean i⟩
  rw [reread, readAll_sheets]
  intro ws hws
  obtain ⟨tab, htab, rfl⟩ := List.mem_map.mp hws
  exact htight tab htab

theorem Consistent.setBatch (h : wb.Consistent) (i : Nat) {batch : Batch}
    (hb : batch.isOpen = false → batch.dirty = ∅) : (wb.setBatch i batch).Consistent := by
  refine ⟨h.neat, ?_, fun j => ?_⟩
  · rw [sheets_setBatch]
    exact h.tight
  · rw [batchAt_setBatch]
    split
    · exact hb
    · exact h.clean j

end Workbook

/-- **A step keeps the two directions of the graph in line.** -/
theorem Step.mirrored {s s' : Progress} (hstep : Step s s')
    (h : s.book.calcState.graph.Mirrored) : s'.book.calcState.graph.Mirrored := by
  cases hstep with
  | put hin cell => exact Workbook.mirrored_put h _ cell
  | restyle hin style => exact (Workbook.restyle_calcState _ _ style).symm ▸ h
  | reread _ _ _ => exact (Workbook.neat_readAll _).mirrored
  | pass _ | openBatch _ | closeBatch _ | configure _ _ _ => exact h

theorem Steps.mirrored {s s' : Progress} (hsteps : Steps s s')
    (h : s.book.calcState.graph.Mirrored) : s'.book.calcState.graph.Mirrored := by
  induction hsteps with
  | refl => exact h
  | tail _ hstep ih => exact hstep.mirrored ih

/-- **A step leaves nothing superfluous behind.** -/
theorem Step.consistent {s s' : Progress} (hstep : Step s s') (h : s.book.Consistent) :
    s'.book.Consistent := by
  cases hstep with
  | put hin cell => exact h.put _ cell
  | restyle hin style => exact h.restyle _ style
  | pass hseeds => exact h.recalculate _
  | reread _ hclean htight => exact Workbook.consistent_reread hclean (htight h.tight)
  | openBatch i => exact h.setBatch i fun hopen => by cases hopen
  | closeBatch i => exact h.setBatch i fun _ => rfl
  | configure settings evaluatesVolatile ambient => exact ⟨h.neat, h.tight, h.clean⟩

theorem Steps.consistent {s s' : Progress} (hsteps : Steps s s') (h : s.book.Consistent) :
    s'.book.Consistent := by
  induction hsteps with
  | refl => exact h
  | tail _ hstep ih => exact hstep.consistent ih

end Gridcalc
