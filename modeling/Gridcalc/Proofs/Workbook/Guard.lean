import Gridcalc.Proofs.Workbook.Batching
import Gridcalc.Proofs.Workbook.Places
import Gridcalc.Proofs.Workbook.Undoing

/-!
# Batches that are closed at the end

`Edit.withBatch` opens the batch of a sheet, carries something out and closes the batch, whether or
not what was carried out was refused. All that it keeps of the sheet is the index.

* `Operation.exists_origin`: open batches move with their sheets, and none is opened, unless an
  operation is there to open and close batches; `Operation.exists_origin_after`: so do they along a
  run;
* `Workbook.BatchesRestored`: the same batches are open as before, wherever their sheets stand now;
* `Edit.isUpdating_withBatch`: which batches are open in the end; they are those from before exactly
  if the sheet still has its index, or it is gone and its index means no sheet with a batch of its
  own.

If a sheet in front of it is removed in between, the index means the next sheet: the batch of the
sheet stays open, and that of the next one is closed.
-/

namespace Gridcalc

open Workbook

/-! ## 1. Open batches move with their sheets -/

namespace Edit

variable {α : Type} {op : Edit α} {wb : Workbook} {i : Nat}

/-- An operation that changes nothing when it is refused, and no batch when it goes through. -/
theorem Atomic.isUpdating_after (h : op.Atomic wb)
    (hkept : ∀ a wb', op wb = .ok a wb' → wb.Kept wb') (i : Nat) :
    (op.after wb).isUpdating i = wb.isUpdating i := by
  cases hop : op wb with
  | ok a wb' =>
    rw [Edit.after_ok hop]
    exact (hkept a wb' hop).isUpdating i
  | error e wb' => rw [Edit.after_error hop, h e wb' hop]

/-- Whether or not it is refused, an operation on cells opens and closes no batch. -/
theorem Writes.isUpdating_after {within : CellKey → Prop} (h : op.Writes wb within) (i : Nat) :
    (op.after wb).isUpdating i = wb.isUpdating i :=
  h.atomic.isUpdating_after (fun _ _ hop => h.kept hop) i

/-- Hiding rows opens and closes no batch. -/
theorem Filters.isUpdating_after {sheet : Nat} {range : RangeRef} (h : op.Filters sheet range wb)
    (i : Nat) : (op.after wb).isUpdating i = wb.isUpdating i := by
  rcases h with ⟨e, he⟩ | ⟨ws, hide, a, -, -, hok⟩
  · rw [after_error he]
  · rw [after_ok hok]
    exact (kept_withSheet wb sheet _).isUpdating i

/-- A new sheet has no open batch. -/
theorem isUpdating_withAdded (name : String) (rows cols : Nat) (wb : Workbook) (i : Nat) :
    (withAdded wb name rows cols).isUpdating i = wb.isUpdating i := by
  unfold isUpdating withAdded
  rw [List.getElem?_append]
  split
  · rfl
  · rename_i hi
    rw [List.getElem?_eq_none (Nat.le_of_not_lt hi)]
    cases i - wb.tabs.length <;> rfl

theorem isUpdating_addSheetOfSize (name : String) (rows cols : Nat) (wb : Workbook) (i : Nat) :
    ((addSheetOfSize name rows cols).after wb).isUpdating i = wb.isUpdating i := by
  rcases after_addSheetOfSize name rows cols wb with e | ⟨-, e⟩ <;> rw [e]
  rw [(kept_rebuild _).isUpdating i, isUpdating_withAdded]

theorem isUpdating_renameSheet (name : String) (wb : Workbook) (j : Nat) :
    ((renameSheet i name).after wb).isUpdating j = wb.isUpdating j := by
  refine (atomic_renameSheet i name wb).isUpdating_after (fun a wb' hop => ?_) j
  obtain ⟨ws, -, -, rfl⟩ := renameSheet_eq_ok hop
  exact ((kept_mapSheets wb _).trans (kept_mapSheets _ _)).trans (kept_rebuild _)

theorem isUpdating_editLines (edit : LineEdit) (wb : Workbook) (j : Nat) :
    ((editLines i edit).after wb).isUpdating j = wb.isUpdating j :=
  (atomic_editLines i edit wb).isUpdating_after (fun _ _ hop => kept_editLines hop) j

/-- The batches behind a removed sheet move up with their sheets. -/
theorem isUpdating_withoutSheet (wb : Workbook) (i j : Nat) :
    (withoutSheet wb i).rebuild.isUpdating j =
      wb.isUpdating (if j < i then j else j + 1) := by
  rw [(kept_rebuild _).isUpdating j]
  unfold isUpdating withoutSheet
  rw [List.getElem?_eraseIdx]
  split <;> rfl

end Edit

namespace Operation

variable {wb : Workbook} {ops : List Operation} {i : Nat}

/-- Whether an operation is there to open or close a batch. -/
def onBatch : Operation → Bool
  | .beginUpdate .. | .endUpdate .. => true
  | _ => false

/-- Only removing a sheet moves batches. -/
theorem isUpdating_apply_of_stays (op : Operation) (hw : wb.WellFormed) (hop : op.onBatch = false)
    (hstays : ∀ removed, op ≠ .removeSheet removed) (i : Nat) :
    (op.apply wb).isUpdating i = wb.isUpdating i := by
  cases hcell : op.onCell with
  | true => exact op.isUpdating_apply hcell wb i
  | false =>
    unfold apply
    cases op with
    | cell sheet row col a => cases hcell
    | cellAt sheet address a => cases hcell
    | addSheet name =>
      rw [run, Edit.after_bind_pure, Edit.addSheet, Edit.after_get_bind]
      exact Edit.isUpdating_addSheetOfSize name _ _ wb i
    | addSheetOfSize name rows cols =>
      rw [run, Edit.after_bind_pure]
      exact Edit.isUpdating_addSheetOfSize name rows cols wb i
    | removeSheet removed => exact absurd rfl (hstays removed)
    | renameSheet sheet name => exact Edit.isUpdating_renameSheet name wb i
    | editLines sheet edit => exact Edit.isUpdating_editLines edit wb i
    | sort sheet range order keyCol skipHeader =>
      rw [run, Edit.after_bind_pure]
      exact (Edit.writes_sort wb sheet range order keyCol skipHeader).isUpdating_after i
    | filter sheet range criterion =>
      rw [run, Edit.after_bind_pure]
      exact (Edit.filters_filter criterion).isUpdating_after i
    | filterBy sheet range fails => exact (Edit.filters_filterWith fails).isUpdating_after i
    | clearFilter sheet range =>
      exact (Edit.filters_filterWith fun _ _ => false).isUpdating_after i
    | paste clipboard hclip sheet corner =>
      rw [run, Edit.after_bind_pure, Edit.paste, Edit.after_bind_pure]
      exact (Edit.writes_pasteFrom hw hclip sheet corner).isUpdating_after i
    | recalculateAll =>
      rw [run, Edit.after_bind_pure]
      exact isUpdating_recalculate wb wb.calcState.formulas.keys i
    | beginUpdate sheet => cases hop
    | endUpdate sheet => cases hop
    | configure settings evaluatesVolatile ambient => rfl

/-- **Every place was somewhere before an operation**, with the same batch open or none. A place
    that has come with a new sheet was behind all sheets. -/
theorem exists_origin (op : Operation) (hw : wb.WellFormed) (hop : op.onBatch = false) (i' : Nat) :
    ∃ i, op.sheet? wb i = some i' ∧ (op.apply wb).isUpdating i' = wb.isUpdating i := by
  by_cases hstays : ∀ removed, op ≠ .removeSheet removed
  · refine ⟨i', ?_, op.isUpdating_apply_of_stays hw hop hstays i'⟩
    exact sheet?_of_spares fun removed h => absurd h (hstays removed)
  · obtain ⟨removed, rfl⟩ := Classical.not_forall_not.mp hstays
    cases hrun : (removeSheet removed).run wb with
    | ok a wb' =>
      obtain ⟨ws, wb'', hremove, hlast⟩ := Edit.bind_eq_ok hrun
      cases hlast
      obtain ⟨-, -, rfl⟩ := Edit.removeSheet_eq_ok hremove
      refine ⟨if i' < removed then i' else i' + 1, ?_, ?_⟩
      · simp only [sheet?, hrun, shiftSheet?]
        split <;> split <;> first | omega | (split <;> first | rfl | omega)
      · rw [apply, Edit.after_ok hrun, Edit.isUpdating_withoutSheet]
    | error e wb' =>
      refine ⟨i', by rw [sheet?, hrun], ?_⟩
      rw [apply, Edit.after_error hrun, (removeSheet removed).atomic_run hw e wb' hrun]

/-- **Every place was somewhere before a run**, with the same batch open or none. -/
theorem exists_origin_after (hw : wb.WellFormed) (hops : ∀ op ∈ ops, op.onBatch = false)
    (i' : Nat) :
    ∃ i, sheetAfter? ops wb i = some i' ∧ (applyAll ops wb).isUpdating i' = wb.isUpdating i := by
  induction ops generalizing wb with
  | nil => exact ⟨i', rfl, rfl⟩
  | cons op ops ih =>
    obtain ⟨x, hx, hbatch⟩ := ih (op.wellFormed_apply hw) fun op' hop' =>
      hops op' (List.mem_cons_of_mem _ hop')
    obtain ⟨i, hi, hbefore⟩ := op.exists_origin hw (hops op List.mem_cons_self) x
    refine ⟨i, ?_, hbatch.trans hbefore⟩
    rw [sheetAfter?, hi, Option.bind_some, hx]

/-- A batch moves with its sheet. -/
theorem isUpdating_sheetAfter? (hw : wb.WellFormed) (hops : ∀ op ∈ ops, op.onBatch = false)
    {i' : Nat} (h : sheetAfter? ops wb i = some i') :
    (applyAll ops wb).isUpdating i' = wb.isUpdating i := by
  obtain ⟨x, hx, hbatch⟩ := exists_origin_after hw hops i'
  rw [hbatch, sheetAfter?_injective hx h]

end Operation

/-! ## 2. Opening and closing -/

/-- The batches that are open in the end are those that were open before, wherever their sheets
    stand now. -/
structure Workbook.BatchesRestored (place : Nat → Option Nat) (wb wb' : Workbook) : Prop where
  /-- Every sheet with an open batch was there before with one. -/
  opened : ∀ j', wb'.isUpdating j' = true → ∃ j, place j = some j' ∧ wb.isUpdating j = true
  /-- Every sheet that had one and is still there has one. -/
  kept : ∀ j j', wb.isUpdating j = true → place j = some j' → wb'.isUpdating j' = true

namespace Edit

variable {α : Type} {body : Edit α} {wb wb' opened : Workbook} {ops : List Operation} {i : Nat}

/-- Opening goes through if there is such a sheet and its batch is not open. -/
theorem beginUpdate_eq_ok (h : beginUpdate i wb = .ok () wb') :
    i < wb.tabs.length ∧ wb.isUpdating i = false ∧
      wb' = wb.setBatch i { wb.batchAt i with isOpen := true } := by
  by_cases hi : i < wb.tabs.length
  · rw [beginUpdate, bind_ok (getBatch_ok hi)] at h
    obtain ⟨ws, wb₁, hget, hrest⟩ := bind_eq_ok h
    obtain ⟨rfl, -⟩ := getSheet_eq_ok hget
    split at hrest
    · cases hrest
    · rename_i hclosed
      cases hrest
      exact ⟨hi, (isUpdating_eq _ i).trans (Bool.eq_false_iff.mpr hclosed), rfl⟩
  · rw [beginUpdate, bind_error (getBatch_error hi)] at h
    cases h

theorem isUpdating_opened (h : beginUpdate i wb = .ok () opened) (j : Nat) :
    opened.isUpdating j = (decide (j = i) || wb.isUpdating j) := by
  obtain ⟨hi, -, rfl⟩ := beginUpdate_eq_ok h
  rw [isUpdating_setBatch]
  by_cases hj : j = i
  · subst hj
    simp [hi]
  · rw [if_neg fun e => hj e.1.symm, decide_eq_false hj, Bool.false_or]

theorem wellFormed_opened (hw : wb.WellFormed) (h : beginUpdate i wb = .ok () opened) :
    opened.WellFormed := by
  rw [← after_ok h]
  exact (steps_beginUpdate wb i).wellFormed hw

/-- The batch is closed whatever has happened, if it is still found. -/
theorem after_withBatch (h : beginUpdate i wb = .ok () opened) (body : Edit α) :
    (withBatch i body).after wb = (endUpdate i).after (body.after opened) := by
  simp only [withBatch, after, h]
  cases body opened with
  | ok a wb' =>
    dsimp only
    cases endUpdate i wb' <;> rfl
  | error e wb' =>
    dsimp only
    cases endUpdate i wb' <;> rfl

section Guarded

variable (hw : wb.WellFormed) (hbegin : beginUpdate i wb = .ok () opened)
  (hops : ∀ op ∈ ops, op.onBatch = false)
  (hbody : body.after opened = Operation.applyAll ops opened)

include hw hbegin hops hbody

/-- Which batches are open in the end, by the places of their sheets. -/
theorem isUpdating_after_withBatch {j j' : Nat}
    (h : Operation.sheetAfter? ops opened j = some j') :
    ((withBatch i body).after wb).isUpdating j' =
      (decide (j' ≠ i) && (decide (j = i) || wb.isUpdating j)) := by
  rw [after_withBatch hbegin, isUpdating_endUpdate, hbody,
    Operation.isUpdating_sheetAfter? (wellFormed_opened hw hbegin) hops h, isUpdating_opened hbegin]

theorem batchesRestored_iff :
    BatchesRestored (Operation.sheetAfter? ops opened) wb ((withBatch i body).after wb) ↔
      Operation.sheetAfter? ops opened i = some i ∨
        Operation.sheetAfter? ops opened i = none ∧
          ∀ j, Operation.sheetAfter? ops opened j = some i → wb.isUpdating j = false := by
  have hflag : ∀ j j', Operation.sheetAfter? ops opened j = some j' →
      ((withBatch i body).after wb).isUpdating j' =
        (decide (j' ≠ i) && (decide (j = i) || wb.isUpdating j)) :=
    fun _ _ => isUpdating_after_withBatch hw hbegin hops hbody
  have hclosed : wb.isUpdating i = false := (beginUpdate_eq_ok hbegin).2.1
  constructor
  · intro h
    cases hi : Operation.sheetAfter? ops opened i with
    | none =>
      refine .inr ⟨rfl, fun j hj => Bool.eq_false_iff.mpr fun hopen => ?_⟩
      have hlost := h.kept j i hopen hj
      rw [hflag j i hj] at hlost
      simp at hlost
    | some i' =>
      refine .inl (congrArg some (Classical.not_not.mp fun hne => ?_))
      -- the batch is still open where its sheet stands now
      obtain ⟨j, hj, hopen⟩ := h.opened i' ((hflag i i' hi).trans (by simp [hne]))
      rw [Operation.sheetAfter?_injective hj hi, hclosed] at hopen
      cases hopen
  · intro h
    refine ⟨fun j' hopen => ?_, fun j j' hopen hj => ?_⟩
    · obtain ⟨j, hj, -⟩ := Operation.exists_origin_after (wellFormed_opened hw hbegin) hops j'
      refine ⟨j, hj, ?_⟩
      rw [hflag j j' hj, Bool.and_eq_true, Bool.or_eq_true] at hopen
      obtain ⟨hne, rfl | hopen⟩ := hopen.imp_right (Or.imp_left of_decide_eq_true)
      · rcases h with h | ⟨h, -⟩
        · exact absurd (Option.some.inj (hj.symm.trans h)) (of_decide_eq_true hne)
        · rw [h] at hj
          cases hj
      · exact hopen
    · rw [hflag j j' hj, hopen, Bool.or_true, Bool.and_true]
      refine decide_eq_true fun e => ?_
      subst e
      rcases h with h | ⟨-, h⟩
      · rw [Operation.sheetAfter?_injective hj h, hclosed] at hopen
        cases hopen
      · rw [h j hj] at hopen
        cases hopen

/-- **Which batches are open after a batch that closes itself.** Whatever is carried out inside
    other than opening and closing batches, the batches that were open stay open with their sheets,
    new sheets have none, and the one that is closed is that of the sheet with the old index. So the
    batches are restored exactly if the index still means the same sheet, or the sheet is gone and
    the index means none that had its batch open; and they are restored if sheets are removed only
    behind the sheet. -/
theorem isUpdating_withBatch :
    (∀ j', ∃ j, Operation.sheetAfter? ops opened j = some j' ∧
      ((withBatch i body).after wb).isUpdating j' =
        (decide (j' ≠ i) && (decide (j = i) || wb.isUpdating j))) ∧
    (BatchesRestored (Operation.sheetAfter? ops opened) wb ((withBatch i body).after wb) ↔
      Operation.sheetAfter? ops opened i = some i ∨
        Operation.sheetAfter? ops opened i = none ∧
          ∀ j, Operation.sheetAfter? ops opened j = some i → wb.isUpdating j = false) ∧
    ((∀ op ∈ ops, op.SparesSheet i) →
      BatchesRestored (Operation.sheetAfter? ops opened) wb ((withBatch i body).after wb)) := by
  have hiff := batchesRestored_iff hw hbegin hops hbody
  refine ⟨fun j' => ?_, hiff, fun h => hiff.mpr (.inl (Operation.sheetAfter?_of_spares h))⟩
  obtain ⟨j, hj, -⟩ := Operation.exists_origin_after (wellFormed_opened hw hbegin) hops j'
  exact ⟨j, hj, isUpdating_after_withBatch hw hbegin hops hbody hj⟩

end Guarded

/-- Two empty sheets. -/
def twoSheets : Workbook :=
  { tabs := [{ sheet := Worksheet.create "Sheet1" 20 10 }, { sheet := Worksheet.create "B" 20 10 }]
    ambient := ⟨default, fun _ => 0⟩ }

theorem formulaIn_twoSheets (key : CellKey) : formulaIn twoSheets.sheets key = none := by
  obtain ⟨i, row, col⟩ := key
  match i with
  | 0 | 1 | i + 2 =>
    simp [formulaIn, cellIn, twoSheets, sheets, Worksheet.create, Worksheet.get?, CellStore.get?]

theorem wellFormed_twoSheets : twoSheets.WellFormed := by
  have hfirst : SheetsWellFormed [Worksheet.create "Sheet1" 20 10] :=
    (wellFormed_create ⟨20, 10⟩ ⟨default, fun _ => 0⟩).sheets
  refine ⟨hfirst.append (Worksheet.wellFormed_create "B" 20 10) ?_ fun x hx => ?_, fun key => ?_⟩
  · exact sheetNameFault?_eq_none_iff.mp (by decide)
  · rw [List.mem_singleton.mp hx]
    decide
  · exact CalcState.exactAt_empty (formulaIn_twoSheets key)

/-- The first sheet is removed while the batch of the second one is to close itself: that sheet is
    the first one then, and its batch stays open. -/
theorem isUpdating_withBatch_removeSheet :
    ((withBatch 1 (removeSheet 0)).after twoSheets).isUpdating 0 = true ∧
      ¬∃ place, BatchesRestored place twoSheets
        ((withBatch 1 (removeSheet 0)).after twoSheets) := by
  have hbegin : beginUpdate 1 twoSheets = .ok () (twoSheets.setBatch 1 { isOpen := true }) := rfl
  have hbody : (removeSheet 0).after (twoSheets.setBatch 1 { isOpen := true }) =
      Operation.applyAll [.removeSheet 0] (twoSheets.setBatch 1 { isOpen := true }) :=
    (after_bind_pure (removeSheet 0) (fun _ => ()) _).symm
  obtain ⟨j, hj, hopen⟩ := (isUpdating_withBatch wellFormed_twoSheets hbegin
    (by simp [Operation.onBatch]) hbody).1 0
  have hplace : Operation.sheetAfter? [.removeSheet 0] (twoSheets.setBatch 1 { isOpen := true }) 1 =
      some 0 := rfl
  have hleft : ((withBatch 1 (removeSheet 0)).after twoSheets).isUpdating 0 = true := by
    rw [hopen, Operation.sheetAfter?_injective hj hplace]
    rfl
  refine ⟨hleft, fun ⟨place, h⟩ => ?_⟩
  obtain ⟨k, -, hk⟩ := h.opened 0 hleft
  have hnone : ∀ k, twoSheets.isUpdating k = false := fun k => by
    match k with
    | 0 | 1 | k + 2 => rfl
  rw [hnone k] at hk
  cases hk

end Edit

end Gridcalc
