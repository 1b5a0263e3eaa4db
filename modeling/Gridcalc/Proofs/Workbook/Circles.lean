import Gridcalc.Proofs.Workbook.Reached

/-!
# Circles while batches are open

A pass looks for circles among the cells that it evaluates. A circle is found, whatever batches are
open, as long as none of its cells is set aside.

* `Workbook.ReadsClear`: a cell reads another one, and neither of them is owed or set aside;
* `Workbook.CirclesShown`: the cells on circles of this kind show a circularity error;
* `Step.circlesShown`, `Steps.circlesShown`: every step keeps this; for a pass that is
  `CirclesShown.recalculate`, the other steps make no new circle of this kind;
* `Step.filed`: what is set aside for a batch lies on its sheet;
* `reached_circles`: hence what holds of all reached workbooks.
-/

namespace Gridcalc

open Relation

namespace Workbook

variable {wb wb' : Workbook} {owed owed' seeds : List CellKey} {c k : CellKey}

/-! ## 1. Circles that are not put off -/

/-- A cell reads another one, and neither is put off. -/
def ReadsClear (wb : Workbook) (owed : List CellKey) (a b : CellKey) : Prop :=
  wb.calcState.graph.Reads a b ∧ ¬wb.PutOff owed a ∧ ¬wb.PutOff owed b

/-- On a circle of cells that are not put off every cell shows a circularity error. -/
def CirclesShown (wb : Workbook) (owed : List CellKey) : Prop :=
  ∀ c, TransGen (wb.ReadsClear owed) c c → valueIn wb.sheets c = .error .circular

/-- A change makes no new circle if it leaves alone all cells that are not put off afterwards. -/
theorem CirclesShown.transfer (h : wb.CirclesShown owed)
    (hkeep : ∀ k, ¬wb'.PutOff owed' k → ¬wb.PutOff owed k ∧
      valueIn wb'.sheets k = valueIn wb.sheets k ∧
      ∀ p, wb'.calcState.graph.Reads k p → wb.calcState.graph.Reads k p) :
    wb'.CirclesShown owed' := by
  intro c hcircle
  obtain ⟨b, hfirst, -⟩ := TransGen.head'_iff.mp hcircle
  rw [(hkeep c hfirst.2.1).2.1]
  refine h c (TransGen.mono (fun a b hab => ?_) c c hcircle)
  obtain ⟨hreads, ha, hb⟩ := hab
  exact ⟨(hkeep a ha).2.2 b hreads, (hkeep a ha).1, (hkeep b hb).1⟩

/-! ## 2. Passes -/

/-- **A pass finds every circle that it does not put off.** If one of the cells is taken up, all of
    them are evaluated, and together; otherwise none of them is touched. -/
theorem CirclesShown.recalculate (h : wb.CirclesShown owed) (hw : wb.WellFormed)
    (hm : wb.calcState.graph.Mirrored) (hseeds : ∀ k ∈ owed, k ∈ seeds) :
    (wb.recalculate seeds).2.CirclesShown [] := by
  intro c hcircle
  have hclear : ∀ {k}, ¬(wb.recalculate seeds).2.PutOff [] k →
      ¬wb.Pending k ∧ k ∉ wb.waitingCells seeds := by
    intro k hk
    rwa [putOff_nil, pending_recalculate, not_or] at hk
  have hreads : TransGen wb.calcState.graph.Reads c c :=
    TransGen.mono (fun _ _ hab => hab.1) c c hcircle
  have hback : ∀ {b}, ReflTransGen ((wb.recalculate seeds).2.ReadsClear []) b c →
      ReflTransGen wb.calcState.graph.Reads b c := fun hbc =>
    ReflTransGen.mono (fun _ _ hab => hab.1) _ _ hbc
  by_cases hdirty : c ∈ wb.dirtyCells seeds
  · have hready : ∀ {k}, k ∈ wb.dirtyCells seeds → ¬(wb.recalculate seeds).2.PutOff [] k →
        k ∈ wb.readyCells seeds := fun hk hput =>
      mem_readyCells.mpr ⟨hk, Bool.eq_false_iff.mpr fun hopen =>
        (hclear hput).2 (mem_waitingCells.mpr ⟨hk, hopen⟩)⟩
    have hwithin : TransGen (wb.calcState.graph.ReadsWithin (wb.readyCells seeds)) c c := by
      refine TransGen.mono (fun a b hab => ?_) c c (transGen_around hcircle)
      obtain ⟨hstep, -, hbc⟩ := hab
      have hb := Graph.mem_dirtyClosure_of_reads hm hdirty (hback hbc)
      have ha := Graph.mem_dirtyClosure_of_reads hm hb (.single hstep.1)
      exact ⟨hready ha hstep.2.1, hready hb hstep.2.2, hstep.1⟩
    obtain ⟨b, hfirst, -⟩ := TransGen.head'_iff.mp hwithin
    obtain ⟨front, back, circular, htasks, hflag, hlast, -⟩ :=
      (Graph.schedule_isSchedule hm (wb.readyCells seeds)).split_tasks hfirst.1
    have hc := formulaIn_of_reads hw hfirst.2.2
    rw [recalculate_sheets, passTasks, htasks,
      performTasks_split ((hw.known c).formulas_eq hc) hc hlast, hflag.mpr hwithin]
    rfl
  · have hclean : ∀ {b}, ReflTransGen wb.calcState.graph.Reads c b → b ∉ wb.dirtyCells seeds :=
      fun hcb hb => hdirty (Graph.mem_dirtyClosure_of_reads hm hb hcb)
    have hnot : ∀ {b}, ReflTransGen wb.calcState.graph.Reads c b → b ∉ owed := fun hcb hb =>
      hclean hcb (Graph.mem_dirtyClosure_of_mem hm (mem_passSeeds_of_mem (hseeds _ hb)))
    rw [valueIn, cellIn_recalculate hm hdirty]
    refine h c (TransGen.mono (fun a b hab => ?_) c c (transGen_around hcircle))
    obtain ⟨hstep, hca, -⟩ := hab
    have hca := ReflTransGen.mono (fun _ _ hab => hab.1) _ _ hca
    exact ⟨hstep.1, not_or.mpr ⟨hnot hca, (hclear hstep.2.1).1⟩,
      not_or.mpr ⟨hnot (hca.tail hstep.1), (hclear hstep.2.2).1⟩⟩

/-! ## 3. The other steps -/

theorem CirclesShown.put {key : CellKey} (h : wb.CirclesShown owed) (hw : wb.WellFormed)
    (hin : wb.InGrid key) (cell : Cell) : (wb.put key cell).CirclesShown (key :: owed) := by
  refine h.transfer fun k hk => ?_
  have hne : key ≠ k := fun e => hk (.inl (e ▸ List.mem_cons_self))
  have hcell : cellIn (wb.put key cell).sheets k = cellIn wb.sheets k := by
    rw [cellIn_put hin, if_neg hne]
  have hsame := agreeAt_of_cellIn hcell
  exact ⟨fun hput => hk (hput.put key cell), hsame.1, fun p =>
    (reads_iff_of_agree (hw.put hin cell) hw (sameFrames_put wb key cell) hsame).mp⟩

theorem CirclesShown.restyle {key : CellKey} (h : wb.CirclesShown owed) (hw : wb.WellFormed)
    (hin : wb.InGrid key) (style : Nat) : (wb.restyle key style).CirclesShown owed := by
  refine h.transfer fun k hk => ?_
  have hsame := agreeAt_restyle hin style k
  exact ⟨fun hput => hk (hput.restyle key style), hsame.1, fun p =>
    (reads_iff_of_agree (hw.restyle hin style) hw (sameFrames_restyle wb key style) hsame).mp⟩

/-- After reading anew every formula is owed, and no circle goes without formulas. -/
theorem circlesShown_formulas (hw : wb.WellFormed) :
    wb.CirclesShown wb.calcState.formulas.keys := by
  intro c hcircle
  obtain ⟨b, hfirst, -⟩ := TransGen.head'_iff.mp hcircle
  refine absurd (.inl ?_) hfirst.2.1
  rw [Std.ExtTreeMap.mem_keys, ← Std.ExtTreeMap.contains_iff_mem]
  exact (hw.known c).contains_iff.mpr (formulaIn_of_reads hw hfirst.1)

theorem CirclesShown.setBatch (h : wb.CirclesShown owed) {i : Nat} {batch : Batch}
    (howed : ∀ k ∈ owed, k ∈ owed')
    (hkept : ∀ k ∈ (wb.batchAt i).dirty, k ∈ owed' ∨ k ∈ batch.dirty) :
    (wb.setBatch i batch).CirclesShown owed' :=
  h.transfer fun _ hk => ⟨fun hput => hk (hput.setBatch howed hkept), by rw [sheets_setBatch],
    fun _ hp => hp⟩

end Workbook

/-! ## 4. All steps -/

/-- **A step leaves no circle unreported but those that it puts off.** -/
theorem Step.circlesShown {s s' : Progress} (hstep : Step s s')
    (h : s.book.CirclesShown s.owed) (hw : s.book.WellFormed) (hc : s.book.Consistent) :
    s'.book.CirclesShown s'.owed := by
  have hw' := hstep.wellFormed hw
  cases hstep with
  | put hin cell => exact h.put hw hin cell
  | restyle hin style => exact h.restyle hw hin style
  | pass hseeds => exact h.recalculate hw hc.neat.mirrored hseeds
  | reread _ _ _ => exact Workbook.circlesShown_formulas hw'
  | openBatch i => exact h.setBatch (fun _ hk => hk) fun _ hk => .inr hk
  | closeBatch i =>
    refine h.setBatch (fun _ hk => List.mem_append_right _ hk) fun k hk => .inl ?_
    exact List.mem_append_left _ (Std.ExtTreeSet.mem_toList.mpr hk)
  | configure settings evaluatesVolatile ambient => exact h

theorem Steps.circlesShown {s s' : Progress} (hsteps : Steps s s')
    (h : s.book.CirclesShown s.owed) (hw : s.book.WellFormed) (hc : s.book.Consistent) :
    s'.book.CirclesShown s'.owed := by
  induction hsteps with
  | refl => exact h
  | tail hsteps hstep ih =>
    exact hstep.circlesShown ih (Steps.wellFormed hsteps hw) (Steps.consistent hsteps hc)

/-! ## 5. Where cells are set aside -/

/-- What is set aside for a batch lies on its sheet. -/
def Workbook.Filed (wb : Workbook) : Prop := ∀ i, ∀ k ∈ (wb.batchAt i).dirty, k.sheet = i

/-- A step sets cells aside for the batches of their own sheets only. -/
theorem Step.filed {s s' : Progress} (hstep : Step s s') (h : s.book.Filed) : s'.book.Filed := by
  intro i k hk
  cases hstep with
  | put hin cell => exact h i k (by rwa [Workbook.batchAt_put] at hk)
  | restyle hin style => exact h i k (by rwa [Workbook.batchAt_restyle] at hk)
  | pass hseeds =>
    rcases ((Workbook.recalculate_batchAt _ _ i).2 k).mp hk with hk | ⟨hi, -⟩
    · exact h i k hk
    · exact hi
  | reread _ hclean _ =>
    rw [Workbook.dirty_reread hclean] at hk
    exact absurd hk Std.ExtTreeSet.not_mem_empty
  | openBatch j =>
    rw [Workbook.batchAt_setBatch] at hk
    split at hk
    · rename_i hj
      exact h i k (hj.1 ▸ hk)
    · exact h i k hk
  | closeBatch j =>
    rw [Workbook.batchAt_setBatch] at hk
    split at hk
    · exact absurd hk Std.ExtTreeSet.not_mem_empty
    · exact h i k hk
  | configure settings evaluatesVolatile ambient => exact h i k hk

theorem Steps.filed {s s' : Progress} (hsteps : Steps s s') (h : s.book.Filed) :
    s'.book.Filed := by
  induction hsteps with
  | refl => exact h
  | tail _ hstep ih => exact hstep.filed ih

namespace Workbook

variable {wb : Workbook}

theorem filed_create (settings : Settings) (ambient : Ambient) :
    (create settings ambient).Filed := by
  intro i k hk
  have hempty : ((create settings ambient).batchAt i).dirty = ∅ := by
    cases i <;> simp [batchAt, create]
  rw [hempty] at hk
  exact absurd hk Std.ExtTreeSet.not_mem_empty

/-- A cell is set aside only while a batch is open on its sheet. -/
theorem Filed.isUpdating (h : wb.Filed) (hc : wb.Consistent) {k : CellKey} (hk : wb.Pending k) :
    wb.isUpdating k.sheet = true := by
  obtain ⟨i, hk⟩ := hk
  rw [h i k hk, isUpdating_eq]
  refine Bool.not_eq_false _ ▸ fun hclosed => ?_
  rw [hc.clean i hclosed] at hk
  exact absurd hk Std.ExtTreeSet.not_mem_empty

/-! ## 6. Reached workbooks -/

theorem circlesShown_create (settings : Settings) (ambient : Ambient) :
    (create settings ambient).CirclesShown [] := by
  intro c hcircle
  obtain ⟨b, hfirst, -⟩ := TransGen.head'_iff.mp hcircle
  have hformula := formulaIn_of_reads (wellFormed_create settings ambient) hfirst.1
  exact absurd (formulaIn_create settings ambient c) hformula

theorem Reached.circlesShown (h : wb.Reached) : wb.CirclesShown [] := by
  obtain ⟨settings, ambient, ops, hops, rfl⟩ := h
  have hw := wellFormed_create settings ambient
  exact (Operation.steps_applyAll hw hops).circlesShown (circlesShown_create settings ambient) hw
    (consistent_create settings ambient)

theorem Reached.filed (h : wb.Reached) : wb.Filed := by
  obtain ⟨settings, ambient, ops, hops, rfl⟩ := h
  exact (Operation.steps_applyAll (wellFormed_create settings ambient) hops).filed
    (filed_create settings ambient)

/-- Opening a batch leaves the dependency graph alone. -/
theorem calcState_beginUpdate (wb : Workbook) (i : Nat) :
    ((Edit.beginUpdate i).after wb).calcState = wb.calcState := by
  rcases Edit.after_beginUpdate wb i with h | h <;> rw [h]
  rfl

/-- Opening a batch sets no cell aside. -/
theorem pending_of_beginUpdate {i : Nat} {k : CellKey}
    (h : ((Edit.beginUpdate i).after wb).Pending k) : wb.Pending k := by
  obtain ⟨j, hj⟩ := h
  rcases Edit.after_beginUpdate wb i with hafter | hafter
  · exact ⟨j, hafter ▸ hj⟩
  · rw [hafter, batchAt_setBatch] at hj
    split at hj
    · exact ⟨i, hj⟩
    · exact ⟨j, hj⟩

/-- **Circles are reported while batches are open**, as far as none of their cells is set aside:
    after any operations other than filters, in any order, with batches open on any sheets, every
    cell on a circle of the dependency graph none of whose cells is set aside shows a circularity
    error. Cells are set aside only on sheets with an open batch, so this holds in particular of
    every circle that lies on sheets without one. -/
theorem reached_circles (wb : Workbook) (h : wb.Reached) :
    (∀ c, TransGen (fun a b => wb.calcState.graph.Reads a b ∧ ¬wb.Pending a ∧ ¬wb.Pending b) c c →
      valueIn wb.sheets c = .error .circular) ∧
    ∀ k, wb.Pending k → wb.isUpdating k.sheet = true := by
  refine ⟨fun c hcircle => h.circlesShown c (TransGen.mono (fun a b hab => ?_) c c hcircle),
    fun k hk => h.filed.isUpdating h.sound.consistent hk⟩
  simpa [ReadsClear] using hab

/-- A cell that refers to itself shows the error also after a batch was opened on its own sheet. -/
theorem reached_circles_selfReading :
    valueIn ((Operation.beginUpdate 0).apply selfReading).sheets ⟨0, 0, 0⟩ = .error .circular := by
  let opened := (Operation.beginUpdate 0).apply selfReading
  have hreached : opened.Reached :=
    ⟨{}, ⟨default, fun _ => 0⟩, [.cell 0 0 0 (.setFormula "=A1"), .beginUpdate 0],
      by simp [Operation.hidesRows], rfl⟩
  have hnone : ∀ k, ¬selfReading.Pending k := fun k hk => by
    have hbusy := reached_selfReading.filed.isUpdating reached_selfReading.sound.consistent hk
    rw [isUpdating_selfReading] at hbusy
    exact absurd hbusy Bool.false_ne_true
  have hpending : ∀ k, ¬opened.Pending k := fun k hk => hnone k (pending_of_beginUpdate hk)
  refine (reached_circles opened hreached).1 _ ?_
  refine TransGen.mono (fun a b hab => ⟨?_, hpending a, hpending b⟩) _ _ onCycle_selfReading
  exact (congrArg (·.graph.Reads a b) (calcState_beginUpdate selfReading 0)).mpr hab

end Workbook

end Gridcalc
