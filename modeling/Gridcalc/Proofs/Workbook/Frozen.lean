import Gridcalc.Proofs.Workbook.Effect
import Gridcalc.Proofs.Workbook.Guard
import Gridcalc.Proofs.Workbook.Renaming

/-!
# Sheets with an open batch

While the batch of a sheet is open, its formulas show what they showed when it was opened, whatever
is written on whatever sheet. What the writes make out of date is noted, and nothing that happens in
between loses a note: passes only add notes, and reading all formulas anew, which wipes them out,
notes every formula again.

* `Workbook.Noted`: what the batch of a sheet has to know of a formula that may be out of date;
* `Workbook.Held`: what a change keeps of a sheet with an open batch, with one lemma for each change
  that operations are made of;
* `Operation.leavesOpen`: the operations that close no batch of the sheet and move no cells;
* `Operation.held_apply`, `Operation.held_applyAll`: one operation, and a run of them;
* `Operation.frozen_applyAll`: **a batch freezes its sheet and loses nothing.**
-/

namespace Gridcalc

open Relation Workbook

/-! ## 1. Changes under an open batch -/

namespace Workbook

variable {wb wb' wb'' : Workbook} {s : Nat} {seeds : List CellKey} {c key : CellKey}
  {written written' : CellKey → Prop}

/-- Only a sheet that is there has an open batch. -/
theorem lt_of_isUpdating (hopen : wb.isUpdating s = true) : s < wb.tabs.length := by
  by_contra hnot
  rw [isUpdating, List.getElem?_eq_none (Nat.le_of_not_lt hnot)] at hopen
  cases hopen

/-- A cell is set aside for the batch of its sheet, unless it holds no formula. -/
def Noted (wb : Workbook) (c : CellKey) : Prop :=
  formulaIn wb.sheets c ≠ none → c ∈ (wb.batchAt c.sheet).dirty

/-- What a change that writes to some cells keeps of a sheet with an open batch. -/
structure Held (s : Nat) (written : CellKey → Prop) (wb wb' : Workbook) : Prop where
  /-- The batch is still open. -/
  isOpen : wb'.isUpdating s = true
  /-- What is not written shows what it showed. -/
  values : ∀ c, c.sheet = s → ¬written c → valueIn wb'.sheets c = valueIn wb.sheets c
  /-- What was noted is noted. -/
  noted : ∀ c, c.sheet = s → wb.Noted c → wb'.Noted c

theorem Held.refl (hopen : wb.isUpdating s = true) : Held s written wb wb :=
  ⟨hopen, fun _ _ _ => rfl, fun _ _ h => h⟩

theorem Held.trans (h : Held s written wb wb') (h' : Held s written wb' wb'') :
    Held s written wb wb'' :=
  ⟨h'.isOpen, fun c hc hnot => (h'.values c hc hnot).trans (h.values c hc hnot),
    fun c hc hnoted => h'.noted c hc (h.noted c hc hnoted)⟩

theorem Held.mono (h : Held s written wb wb') (hw : ∀ c, written c → written' c) :
    Held s written' wb wb' :=
  ⟨h.isOpen, fun c hc hnot => h.values c hc fun hwritten => hnot (hw c hwritten), h.noted⟩

theorem Noted.congr (h : wb.Noted c) (hf : formulaIn wb'.sheets c = formulaIn wb.sheets c)
    (hd : ∀ k ∈ (wb.batchAt c.sheet).dirty, k ∈ (wb'.batchAt c.sheet).dirty) : wb'.Noted c :=
  fun hformula => hd c (h (hf ▸ hformula))

/-- A pass sets aside what it takes up on a sheet with an open batch. -/
theorem mem_dirty_recalculate (hm : wb.calcState.graph.Mirrored)
    (hopen : wb.isUpdating c.sheet = true) (hc : wb.Dirty seeds c) :
    c ∈ ((wb.recalculate seeds).2.batchAt c.sheet).dirty :=
  ((recalculate_batchAt wb seeds c.sheet).2 c).mpr
    (.inr ⟨rfl, mem_waitingCells.mpr ⟨(mem_dirtyCells hm).mpr hc, hopen⟩⟩)

/-- **A pass leaves a sheet with an open batch alone**, and loses no note. -/
theorem held_recalculate (hw : wb.WellFormed) (hm : wb.calcState.graph.Mirrored)
    (hopen : wb.isUpdating s = true) (seeds : List CellKey) :
    Held s written wb (wb.recalculate seeds).2 := by
  have heffect := hw.passEffect hm seeds
  refine ⟨(isUpdating_recalculate wb seeds s).trans hopen, fun c hc _ => ?_, fun c _ hnoted => ?_⟩
  · have hnot : c ∉ wb.evaluated seeds := fun he => by
      have hclosed := he.2.2
      rw [hc, hopen] at hclosed
      cases hclosed
    rw [valueIn, heffect.others c hnot, valueIn]
  · exact hnoted.congr (heffect.inputs.formulaIn_eq c) fun k hk =>
      ((heffect.batches c.sheet).2 k).mpr (.inl hk)

/-- **A write** concerns its own cell only; whether or not that held a formula before, it is
    noted. -/
theorem held_write (hw : wb.WellFormed) (hm : wb.calcState.graph.Mirrored)
    (hopen : wb.isUpdating s = true) (hin : wb.InGrid key) (cell : Cell) :
    Held s (· = key) wb ((wb.put key cell).recalculate [key]).2 := by
  have hw' : (wb.put key cell).WellFormed := hw.put hin cell
  have hm' := mirrored_put hm key cell
  have hopen' : (wb.put key cell).isUpdating s = true := (isUpdating_put wb key cell s).trans hopen
  have hpass := @held_recalculate _ s (· = key) hw' hm' hopen' [key]
  have hcell : ∀ c, c ≠ key → cellIn (wb.put key cell).sheets c = cellIn wb.sheets c :=
    fun c hne => (cellIn_put hin cell c).trans (if_neg (Ne.symm hne))
  refine ⟨hpass.isOpen, fun c hc hne => ?_, fun c hc hnoted => ?_⟩
  · rw [hpass.values c hc hne, valueIn, hcell c hne, valueIn]
  · by_cases hne : c = key
    · subst hne
      exact fun _ => mem_dirty_recalculate hm' (hc ▸ hopen') ⟨c, .inl List.mem_cons_self, .refl⟩
    · refine hpass.noted c hc (hnoted.congr ?_ fun k hk => ?_)
      · rw [formulaIn, hcell c hne, formulaIn]
      · rwa [batchAt_put]

theorem held_restyle (hopen : wb.isUpdating s = true) (hin : wb.InGrid key) (style : Nat) :
    Held s written wb (wb.restyle key style) := by
  refine ⟨(isUpdating_restyle wb key style s).trans hopen,
    fun c _ _ => (agreeAt_restyle hin style c).1, fun c _ hnoted => ?_⟩
  refine hnoted.congr (agreeAt_restyle hin style c).2 fun k hk => ?_
  rwa [batchAt_restyle]

/-- After all formulas have been read anew, every formula of a sheet with an open batch is
    noted. -/
theorem noted_rebuild (hsheets : SheetsWellFormed wb.sheets)
    (hopen : wb.isUpdating c.sheet = true) : wb.rebuild.Noted c := by
  intro hformula
  have hw := wellFormed_reread_cleared hsheets
  rw [(sameInputs_rebuild hsheets).formulaIn_eq, ← sheets_reread_cleared wb] at hformula
  rw [rebuild_eq]
  exact mem_dirty_recalculate (neat_readAll _).mirrored
    (((kept_reread_cleared wb).isUpdating c.sheet).trans hopen) (hw.dirty_all_iff.mpr hformula)

/-- **Reading all formulas anew** after a change of the sheets that changes no value. -/
theorem held_rebuild (hsheets : SheetsWellFormed wb'.sheets) (hopen : wb'.isUpdating s = true)
    (hvalues : ∀ c, c.sheet = s → valueIn wb'.sheets c = valueIn wb.sheets c) :
    Held s written wb wb'.rebuild := by
  have hread := wellFormed_reread_cleared hsheets
  have hopen' := ((kept_reread_cleared wb').isUpdating s).trans hopen
  have hpass := @held_recalculate _ s written hread (neat_readAll _).mirrored hopen'
    (wb'.reread (wb'.tabs.map Tab.cleared)).calcState.formulas.keys
  refine ⟨hpass.isOpen, fun c hc hnot => ?_, fun c hc _ => noted_rebuild hsheets (hc ▸ hopen)⟩
  refine (hpass.values c hc hnot).trans ?_
  rw [sheets_reread_cleared]
  exact hvalues c hc

/-- Another batch, as long as that of the sheet stays open and keeps its notes. -/
theorem held_setBatch (hopen : wb.isUpdating s = true) {i : Nat} {batch : Batch}
    (hkept : i = s → batch.isOpen = true ∧ ∀ k ∈ (wb.batchAt i).dirty, k ∈ batch.dirty) :
    Held s written wb (wb.setBatch i batch) := by
  refine ⟨?_, fun c _ _ => by rw [sheets_setBatch], fun c hc hnoted => ?_⟩
  · rw [Edit.isUpdating_setBatch]
    split
    · rename_i hi
      exact (hkept hi.1).1
    · exact hopen
  · refine hnoted.congr (by rw [sheets_setBatch]) fun k hk => ?_
    rw [batchAt_setBatch]
    split
    · rename_i hi
      exact (hkept (hi.1.trans hc)).2 k (hi.1 ▸ hk)
    · exact hk

end Workbook

/-! ## 2. Operations under an open batch -/

namespace Edit

variable {wb : Workbook} {s : Nat} {written : CellKey → Prop}

theorem held_addSheetOfSize (hw : wb.WellFormed) (hopen : wb.isUpdating s = true) (name : String)
    (rows cols : Nat) : Held s written wb ((addSheetOfSize name rows cols).after wb) := by
  rcases after_addSheetOfSize name rows cols wb with e | ⟨hname, e⟩ <;> rw [e]
  · exact .refl hopen
  · have hlt : s < wb.sheets.length := by
      rw [sheets, List.length_map]
      exact lt_of_isUpdating hopen
    refine held_rebuild (sheetsWellFormed_withAdded hw hname rows cols)
      ((isUpdating_withAdded name rows cols wb s).trans hopen) fun c hc => ?_
    rw [sheets_withAdded, valueIn, cellIn, List.getElem?_append_left (hc ▸ hlt)]
    rfl

/-- A sheet may get another name, also the one with the open batch. -/
theorem held_renameSheet (hw : wb.WellFormed) (hopen : wb.isUpdating s = true) (i : Nat)
    (name : String) : Held s written wb ((renameSheet i name).after wb) := by
  cases hop : renameSheet i name wb with
  | error e wb' =>
    rw [after_error hop, atomic_renameSheet i name wb e wb' hop]
    exact .refl hopen
  | ok u wb' =>
    obtain ⟨ws, -, hname, rfl⟩ := renameSheet_eq_ok hop
    rw [after_ok hop]
    refine held_rebuild (sheetsWellFormed_withName hw hname ws.name) ?_ fun c _ => ?_
    · exact (((kept_mapSheets wb _).trans (kept_mapSheets _ _)).isUpdating s).trans hopen
    · rw [sheets_withName, valueIn_renamedSheets]

theorem held_beginUpdate (hopen : wb.isUpdating s = true) (i : Nat) :
    Held s written wb ((beginUpdate i).after wb) := by
  rcases after_beginUpdate wb i with e | e <;> rw [e]
  · exact .refl hopen
  · exact held_setBatch hopen fun _ => ⟨rfl, fun _ hk => hk⟩

/-- Closing the batch of another sheet is a pass from what was noted there. -/
theorem held_endUpdate (hw : wb.WellFormed) (hm : wb.calcState.graph.Mirrored)
    (hopen : wb.isUpdating s = true) {i : Nat} (hi : i ≠ s) :
    Held s written wb ((endUpdate i).after wb) := by
  rcases after_endUpdate wb i with ⟨-, e⟩ | e <;> rw [e]
  · exact .refl hopen
  · have hclose : Held s written wb (wb.setBatch i {}) :=
      held_setBatch hopen fun h => absurd h hi
    have hw' : (wb.setBatch i {}).WellFormed := hw.of_eq (sheets_setBatch wb i {}) rfl
    exact hclose.trans (held_recalculate hw' hm hclose.isOpen _)

/-- Closing an open batch evaluates what was noted, in a pass of its own. -/
theorem endUpdate_ok {i : Nat} (hopen : wb.isUpdating i = true) :
    endUpdate i wb = .ok ((wb.setBatch i {}).recalculate (wb.batchAt i).dirty.toList).1
      ((wb.setBatch i {}).recalculate (wb.batchAt i).dirty.toList).2 := by
  have hi := lt_of_isUpdating hopen
  rw [isUpdating_eq] at hopen
  rw [endUpdate, bind_ok (getBatch_ok hi), if_pos hopen]
  rfl

end Edit

/-- An action on a cell writes to that cell, or to none. -/
theorem CellAction.held_run (a : CellAction) {wb : Workbook} {s : Nat} (hw : wb.WellFormed)
    (hm : wb.calcState.graph.Mirrored) (hopen : wb.isUpdating s = true) (sheet row col : Nat) :
    Held s (fun c => a.contents? ≠ none ∧ c = ⟨sheet, row, col⟩) wb
      ((a.run sheet row col).after wb) := by
  rcases a.after_cases wb sheet row col with e | ⟨style, hin, e⟩ | ⟨cell, hcell, hin, e⟩ <;> rw [e]
  · exact .refl hopen
  · exact held_restyle hopen hin style
  · exact (held_write hw hm hopen hin _).mono fun c hc => ⟨by rw [hcell]; exact nofun, hc⟩

namespace Operation

variable {wb wb' : Workbook} {s : Nat} {op : Operation} {ops : List Operation} {c key : CellKey}

/-- The cell that an operation writes to. -/
def writtenCell? : Operation → Option CellKey
  | .cell sheet row col a => a.contents?.map fun _ => ⟨sheet, row, col⟩
  | .cellAt sheet address a =>
    a.contents?.bind fun _ => (CellRef.read address).toOption.map fun r => ⟨sheet, r.row, r.col⟩
  | _ => none

/-- Whether an operation is one of those that may happen while the batch of a sheet is open: it
    looks at cells, writes or styles them, adds or renames sheets, evaluates everything, opens
    batches or closes that of another sheet, or changes what belongs to no sheet. -/
def leavesOpen (s : Nat) : Operation → Bool
  | .cell .. | .cellAt .. | .addSheet .. | .addSheetOfSize .. | .renameSheet .. | .recalculateAll
  | .beginUpdate .. | .configure .. => true
  | .endUpdate i => decide (i ≠ s)
  | _ => false

/-- A write goes through, and its pass takes a cell up. -/
def TakesUp (op : Operation) (wb : Workbook) (c : CellKey) : Prop :=
  ∃ key wb', op.writtenCell? = some key ∧ op.run wb = .ok () wb' ∧ wb'.Dirty [key] c

/-- Some write of a run takes a cell up. -/
def TakenUp (ops : List Operation) (wb : Workbook) (c : CellKey) : Prop :=
  ∃ before op after, ops = before ++ op :: after ∧ op.TakesUp (applyAll before wb) c

/-- A write through an operation is one to the cell that it names. -/
theorem exists_write_of_run_eq_ok (hkey : op.writtenCell? = some key)
    (h : op.run wb = .ok () wb') :
    ∃ cell, wb.InGrid key ∧ wb' = ((wb.put key cell).recalculate [key]).2 := by
  cases op with
  | cell sheet row col a =>
    obtain ⟨cell, hcell, rfl⟩ := Option.map_eq_some_iff.mp hkey
    rw [run, a.run_of_contents hcell] at h
    exact ⟨_, Edit.writeContents_eq_ok h⟩
  | cellAt sheet address a =>
    obtain ⟨u, wb₁, hcheck, hrest⟩ := Edit.bind_eq_ok h
    obtain ⟨r, wb₂, hlift, hrun⟩ := Edit.bind_eq_ok hrest
    obtain rfl := Edit.checkSheet_eq_ok hcheck
    obtain ⟨rfl, hread⟩ := Edit.lift_eq_ok hlift
    obtain ⟨cell, hcell, hplace⟩ := Option.bind_eq_some_iff.mp hkey
    rw [hread] at hplace
    cases hplace
    rw [a.run_of_contents hcell] at hrun
    exact ⟨_, Edit.writeContents_eq_ok hrun⟩
  | _ => cases hkey

/-- What a write takes up is noted. -/
theorem noted_of_takesUp (hm : wb.calcState.graph.Mirrored)
    (hopen : wb.isUpdating c.sheet = true) (h : op.TakesUp wb c) : (op.apply wb).Noted c := by
  obtain ⟨key, wb', hkey, hrun, hdirty⟩ := h
  obtain ⟨cell, -, rfl⟩ := exists_write_of_run_eq_ok hkey hrun
  rw [apply, Edit.after_ok hrun]
  exact fun _ => mem_dirty_recalculate (mirrored_put hm key cell)
    ((isUpdating_put wb key cell c.sheet).trans hopen) hdirty

/-- **One operation under an open batch.** -/
theorem held_apply (op : Operation) (hop : op.leavesOpen s = true) (hw : wb.WellFormed)
    (hm : wb.calcState.graph.Mirrored) (hopen : wb.isUpdating s = true) :
    Held s (fun c => op.writtenCell? = some c) wb (op.apply wb) := by
  unfold apply
  cases op with
  | cell sheet row col a =>
    refine (a.held_run hw hm hopen sheet row col).mono fun c hc => ?_
    obtain ⟨cell, hcell⟩ := Option.ne_none_iff_exists'.mp hc.1
    rw [writtenCell?, hcell, hc.2]
    rfl
  | cellAt sheet address a =>
    rw [← apply, apply_cellAt]
    split
    · rename_i r hread
      refine (a.held_run hw hm hopen sheet r.row r.col).mono fun c hc => ?_
      obtain ⟨cell, hcell⟩ := Option.ne_none_iff_exists'.mp hc.1
      rw [writtenCell?, hcell, hread, hc.2]
      rfl
    · exact .refl hopen
  | addSheet name =>
    rw [run, Edit.after_bind_pure, Edit.addSheet, Edit.after_get_bind]
    exact Edit.held_addSheetOfSize hw hopen name _ _
  | addSheetOfSize name rows cols =>
    rw [run, Edit.after_bind_pure]
    exact Edit.held_addSheetOfSize hw hopen name rows cols
  | renameSheet i name => exact Edit.held_renameSheet hw hopen i name
  | recalculateAll =>
    rw [run, Edit.after_bind_pure]
    exact held_recalculate hw hm hopen wb.calcState.formulas.keys
  | beginUpdate i => exact Edit.held_beginUpdate hopen i
  | endUpdate i =>
    rw [run, Edit.after_bind_pure]
    exact Edit.held_endUpdate hw hm hopen (of_decide_eq_true hop)
  | configure settings evaluatesVolatile ambient => exact ⟨hopen, fun _ _ _ => rfl, fun _ _ h => h⟩
  | _ => cases hop

/-! ## 3. Runs under an open batch -/

theorem mirrored_apply (op : Operation) (hop : op.leavesOpen s = true) (hw : wb.WellFormed)
    (hm : wb.calcState.graph.Mirrored) : (op.apply wb).calcState.graph.Mirrored := by
  refine (op.steps hw ?_).mirrored hm
  cases op <;> first | rfl | cases hop

/-- **A run under an open batch.** -/
theorem held_applyAll (hw : wb.WellFormed) (hm : wb.calcState.graph.Mirrored)
    (hopen : wb.isUpdating s = true) (hops : ∀ op ∈ ops, op.leavesOpen s = true) :
    Held s (fun c => ∃ op ∈ ops, op.writtenCell? = some c) wb (applyAll ops wb) := by
  induction ops generalizing wb with
  | nil => exact .refl hopen
  | cons op ops ih =>
    have hop := hops op List.mem_cons_self
    have hstep := op.held_apply hop hw hm hopen
    have hrest := ih (op.wellFormed_apply hw) (op.mirrored_apply hop hw hm) hstep.isOpen
      fun op' hop' => hops op' (List.mem_cons_of_mem _ hop')
    refine (hstep.mono fun c hc => ?_).trans (hrest.mono fun c hc => ?_)
    · exact ⟨op, List.mem_cons_self, hc⟩
    · obtain ⟨op', hop', hc⟩ := hc
      exact ⟨op', List.mem_cons_of_mem _ hop', hc⟩

theorem mirrored_applyAll (hw : wb.WellFormed) (hm : wb.calcState.graph.Mirrored)
    (hops : ∀ op ∈ ops, op.leavesOpen s = true) :
    (applyAll ops wb).calcState.graph.Mirrored := by
  refine (steps_applyAll hw fun op hop => ?_).mirrored hm
  have hleaves := hops op hop
  cases op <;> first | rfl | cases hleaves

/-- What some write of a run takes up is noted in the end. -/
theorem noted_of_takenUp (hw : wb.WellFormed) (hm : wb.calcState.graph.Mirrored)
    (hopen : wb.isUpdating c.sheet = true) (hops : ∀ op ∈ ops, op.leavesOpen c.sheet = true)
    (h : TakenUp ops wb c) : (applyAll ops wb).Noted c := by
  obtain ⟨before, op, after, rfl, htakes⟩ := h
  obtain ⟨hbefore, hafter⟩ := List.forall_mem_append.mp hops
  obtain ⟨hop, hafter⟩ := List.forall_mem_cons.mp hafter
  let there := applyAll before wb
  have hw' : there.WellFormed := wellFormed_applyAll before hw
  have hm' : there.calcState.graph.Mirrored := mirrored_applyAll hw hm hbefore
  have hopen' := (held_applyAll hw hm hopen hbefore).isOpen
  have hnoted : (op.apply there).Noted c := noted_of_takesUp hm' hopen' htakes
  have hrun : applyAll (before ++ op :: after) wb = applyAll after (op.apply there) :=
    List.foldl_append
  rw [hrun]
  exact (held_applyAll (op.wellFormed_apply hw') (op.mirrored_apply hop hw' hm')
    (op.held_apply hop hw' hm' hopen').isOpen hafter).noted c rfl hnoted

/-- **A batch freezes its sheet and loses nothing.** While the batch of a sheet is open, cells are
    written and styled on any sheet, sheets are added and renamed, everything is evaluated, and
    batches of other sheets are opened and closed. In the end every cell of the sheet that has not
    been written itself shows what it showed before; every cell that the pass of one of the writes
    has taken up and that still holds a formula is set aside for the batch; and when the batch is
    closed, all that is set aside is evaluated. The two directions of the graph agree, as they do
    however it is built. -/
theorem frozen_applyAll (hw : wb.WellFormed) (hm : wb.calcState.graph.Mirrored)
    (hopen : wb.isUpdating s = true) (hops : ∀ op ∈ ops, op.leavesOpen s = true) :
    (∀ c, c.sheet = s → (∀ op ∈ ops, op.writtenCell? ≠ some c) →
      valueIn (applyAll ops wb).sheets c = valueIn wb.sheets c) ∧
    (∀ c, c.sheet = s → TakenUp ops wb c → formulaIn (applyAll ops wb).sheets c ≠ none →
      c ∈ ((applyAll ops wb).batchAt s).dirty) ∧
    ∃ report closed, Edit.endUpdate s (applyAll ops wb) = .ok report closed ∧
      PassEffect ((applyAll ops wb).setBatch s {}) ((applyAll ops wb).batchAt s).dirty.toList
        report closed ∧
      ∀ c, c.sheet = s → TakenUp ops wb c → formulaIn (applyAll ops wb).sheets c ≠ none →
        c ∈ ((applyAll ops wb).setBatch s {}).evaluated
          ((applyAll ops wb).batchAt s).dirty.toList := by
  have hheld := held_applyAll hw hm hopen hops
  have hdirty : ∀ c, c.sheet = s → TakenUp ops wb c →
      formulaIn (applyAll ops wb).sheets c ≠ none → c ∈ ((applyAll ops wb).batchAt s).dirty := by
    rintro c rfl htaken
    exact noted_of_takenUp hw hm hopen hops htaken
  have hclosed : ((applyAll ops wb).setBatch s {}).WellFormed :=
    (wellFormed_applyAll ops hw).of_eq (sheets_setBatch _ s {}) rfl
  have hmirrored : ((applyAll ops wb).setBatch s {}).calcState.graph.Mirrored :=
    mirrored_applyAll hw hm hops
  refine ⟨fun c hc hnot => hheld.values c hc fun ⟨op, hop, h⟩ => hnot op hop h, hdirty, _, _,
    Edit.endUpdate_ok hheld.isOpen, hclosed.passEffect hmirrored _, fun c hc htaken hformula => ?_⟩
  refine ⟨⟨c, .inl (Std.ExtTreeSet.mem_toList.mpr (hdirty c hc htaken hformula)), .refl⟩, ?_, ?_⟩
  · rwa [sheets_setBatch]
  · rw [Edit.isUpdating_setBatch, if_pos ⟨hc.symm, hc ▸ lt_of_isUpdating hheld.isOpen⟩]

/-- The batch is opened over the cell that refers to itself; a formula that refers to this cell is
    written beside it, and everything is evaluated. -/
theorem frozen_applyAll_selfReading :
    let opened := selfReading.setBatch 0 { isOpen := true }
    let written := applyAll [.cell 0 0 1 (.setFormula "=A1"), .recalculateAll] opened
    valueIn written.sheets ⟨0, 0, 0⟩ = .error .circular ∧
      ⟨0, 0, 1⟩ ∈ (written.batchAt 0).dirty := by
  intro opened written
  have hsound := reached_selfReading.sound
  obtain ⟨ws, hws, -, hrows, hcols⟩ := Edit.sheet_selfReading
  have hw : opened.WellFormed := hsound.wellFormed.of_eq (sheets_setBatch _ _ _) rfl
  have hopen : opened.isUpdating 0 = true := by
    rw [Edit.isUpdating_setBatch, if_pos ⟨rfl, lt_of_getElem?_sheets hws⟩]
  have hgrid : opened.InGrid ⟨0, 0, 1⟩ := by
    refine ⟨ws, (congrArg (·[0]?) (sheets_setBatch _ _ _)).trans hws, ?_⟩
    exact Worksheet.inBounds_iff.mpr ⟨by rw [hrows]; decide, by rw [hcols]; decide⟩
  have hfrozen := @frozen_applyAll opened 0 [.cell 0 0 1 (.setFormula "=A1"), .recalculateAll] hw
    hsound.consistent.neat.mirrored hopen (by simp [leavesOpen])
  refine ⟨?_, hfrozen.2.1 ⟨0, 0, 1⟩ rfl ?_ ?_⟩
  · rw [hfrozen.1 ⟨0, 0, 0⟩ rfl (by simp [writtenCell?, CellAction.contents?]), sheets_setBatch]
    refine (hsound.correct isUpdating_selfReading plain_selfReading _ ?_).1 onCycle_selfReading
    rw [formulaIn_selfReading, if_pos rfl]
    exact nofun
  · exact ⟨[], _, _, rfl, _, _, rfl, Edit.writeContents_ok hgrid (.ofFormula "=A1"), _,
      .inl List.mem_cons_self, .refl⟩
  · let stored := (Edit.writeContents 0 0 1 (.ofFormula "=A1")).after opened
    show formulaIn stored.recalculateAll.2.sheets ⟨0, 0, 1⟩ ≠ none
    rw [Workbook.recalculateAll, recalculate_sheets, formulaIn_performTasks,
      Edit.formulaIn_writeContents hgrid, if_pos rfl]
    exact nofun

end Operation

end Gridcalc
