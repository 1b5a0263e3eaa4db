import Gridcalc.Proofs.Workbook.Atomicity
import Gridcalc.Proofs.Workbook.Reverting

/-!
# Where sheets and cells stand after operations

Sheets are known by an index and cells by a sheet, a row and a column. Removing a sheet moves up the
sheets behind it, and insertions and deletions move the cells behind them.

* `Operation.sheet?`, `Operation.cell?`: where a sheet or a cell stands after an operation, unless
  it is gone; `Operation.sheetAfter?`, `Operation.cellAfter?`: after several operations;
* `Operation.inputIn_cell?`: a cell that is moved takes along what it holds;
* `Operation.sheetAfter?_injective`, `Operation.cellAfter?_injective`: no two sheets and no two
  cells come to stand in one place;
* `Operation.Spares`, `Operation.cellAfter?_of_spares`: removals, insertions and deletions behind a
  range leave its cells where they are.

All other operations leave sheets and cells where they are, and so does one that is refused.
Writing, sorting and pasting change what cells hold, and not where they stand.
-/

namespace Gridcalc

open Workbook

/-! ## 1. One operation -/

namespace Operation

variable {op : Operation} {ops : List Operation} {wb : Workbook} {i j i' : Nat}
  {key key' moved : CellKey}

/-- Where a sheet stands after an operation that goes through. -/
def shiftSheet? (op : Operation) (i : Nat) : Option Nat :=
  match op with
  | .removeSheet removed =>
    if i = removed then none else some (if removed < i then i - 1 else i)
  | _ => some i

/-- Where a cell stands after an operation that goes through. -/
def shiftCell? (op : Operation) (key : CellKey) : Option CellKey :=
  match op with
  | .editLines sheet edit => edit.key? sheet key
  | op => (op.shiftSheet? key.sheet).map fun i => { key with sheet := i }

/-- Where a sheet stands after an operation, which may be refused. -/
def sheet? (op : Operation) (wb : Workbook) (i : Nat) : Option Nat :=
  match op.run wb with
  | .ok _ _ => op.shiftSheet? i
  | .error _ _ => some i

/-- Where a cell stands after an operation, which may be refused. -/
def cell? (op : Operation) (wb : Workbook) (key : CellKey) : Option CellKey :=
  match op.run wb with
  | .ok _ _ => op.shiftCell? key
  | .error _ _ => some key

theorem shiftSheet?_injective (h : op.shiftSheet? i = some i') (h' : op.shiftSheet? j = some i') :
    i = j := by
  cases op with
  | removeSheet removed =>
    simp only [shiftSheet?] at h h'
    split at h
    · cases h
    · split at h'
      · cases h'
      · rw [Option.some.injEq] at h h'
        split at h <;> split at h' <;> omega
  | _ =>
    cases h
    cases h'
    rfl

theorem shiftCell?_injective (h : op.shiftCell? key = some moved)
    (h' : op.shiftCell? key' = some moved) : key = key' := by
  have hsheet : ∀ {key key' : CellKey},
      ((op.shiftSheet? key.sheet).map fun i => { key with sheet := i }) = some moved →
      ((op.shiftSheet? key'.sheet).map fun i => { key' with sheet := i }) = some moved →
      key = key' := by
    intro key key' h h'
    obtain ⟨i, hi, rfl⟩ := Option.map_eq_some_iff.mp h
    obtain ⟨i', hi', e⟩ := Option.map_eq_some_iff.mp h'
    obtain ⟨rfl, hrow, hcol⟩ := CellKey.mk.inj e
    have hsame := shiftSheet?_injective hi hi'
    cases key
    cases key'
    simp_all
  cases op with
  | editLines sheet edit => exact LineEdit.key?_injective h h'
  | _ => exact hsheet h h'

theorem sheet?_injective (h : op.sheet? wb i = some i') (h' : op.sheet? wb j = some i') :
    i = j := by
  unfold sheet? at h h'
  split at h
  · simp only [*] at h'
    exact shiftSheet?_injective h h'
  · simp only [*] at h'
    cases h
    cases h'
    rfl

theorem cell?_injective (h : op.cell? wb key = some moved) (h' : op.cell? wb key' = some moved) :
    key = key' := by
  unfold cell? at h h'
  split at h
  · simp only [*] at h'
    exact shiftCell?_injective h h'
  · simp only [*] at h'
    cases h
    cases h'
    rfl

/-! ## 2. Contents -/

/-- Whether an operation moves cells. -/
def movesCells : Operation → Bool
  | .removeSheet .. | .editLines .. => true
  | _ => false

/-- The sheets behind a removed one move up. -/
theorem cellIn_eraseIdx {sheets : List Worksheet} {removed : Nat}
    (h : (removeSheet removed).shiftCell? key = some moved) :
    cellIn (sheets.eraseIdx removed) moved = cellIn sheets key := by
  obtain ⟨i, hi, rfl⟩ := Option.map_eq_some_iff.mp h
  simp only [shiftSheet?] at hi
  split at hi
  · cases hi
  · rename_i hne
    unfold cellIn
    rw [List.getElem?_eraseIdx]
    by_cases hlt : removed < key.sheet
    · rw [if_pos hlt] at hi
      cases hi
      have hback : key.sheet - 1 + 1 = key.sheet := Nat.sub_add_cancel (Nat.one_le_of_lt hlt)
      rw [if_neg (by dsimp only; omega), hback]
    · rw [if_neg hlt] at hi
      cases hi
      rw [if_pos (by dsimp only; omega)]

/-- **A cell that is moved takes along what it holds**: its literal and its style, and its formula,
    which follows the cells it refers to. -/
theorem inputIn_cell? (op : Operation) (hw : wb.WellFormed) (ht : ∀ ws ∈ wb.sheets, ws.store.Tight)
    (hop : op.movesCells = true) (h : op.cell? wb key = some moved) :
    ∃ relabel, inputIn (op.apply wb).sheets moved =
      (inputIn wb.sheets key).map (·.relabelled relabel) := by
  have hself : ∀ cell : Cell, cell.relabelled id = cell := fun cell => by
    obtain ⟨formula, value, style⟩ := cell
    cases formula <;> rfl
  unfold cell? at h
  split at h
  · rename_i a wb' hok
    rw [apply, Edit.after_ok hok]
    cases op with
    | removeSheet removed =>
      obtain ⟨ws, wb'', hremove, hlast⟩ := Edit.bind_eq_ok hok
      cases hlast
      obtain ⟨hws, hmany, rfl⟩ := Edit.removeSheet_eq_ok hremove
      have hsame := sameInputs_rebuild (Edit.sheetsWellFormed_withoutSheet hw hws hmany)
      refine ⟨id, ?_⟩
      rw [hsame.inputs, Edit.sheets_withoutSheet, inputIn, cellIn_eraseIdx h, inputIn]
      cases cellIn wb.sheets key <;> simp [hself]
    | editLines sheet edit =>
      obtain ⟨ws, ws', hws, hedit, rfl⟩ := Edit.editLines_eq_ok hok
      exact ⟨_, Edit.inputIn_editLines hw ht hws hedit h⟩
    | _ => cases hop
  · rename_i e wb' he
    cases h
    have hsame : op.apply wb = wb := (Edit.after_error he).trans (op.atomic_run hw e wb' he)
    refine ⟨id, ?_⟩
    rw [hsame]
    cases inputIn wb.sheets key <;> simp [hself]

/-! ## 3. Several operations -/

/-- Where a sheet stands after some operations. -/
def sheetAfter? : List Operation → Workbook → Nat → Option Nat
  | [], _, i => some i
  | op :: ops, wb, i => (op.sheet? wb i).bind (sheetAfter? ops (op.apply wb))

/-- Where a cell stands after some operations. -/
def cellAfter? : List Operation → Workbook → CellKey → Option CellKey
  | [], _, key => some key
  | op :: ops, wb, key => (op.cell? wb key).bind (cellAfter? ops (op.apply wb))

/-- No two sheets come to stand in one place. -/
theorem sheetAfter?_injective (h : sheetAfter? ops wb i = some i')
    (h' : sheetAfter? ops wb j = some i') : i = j := by
  induction ops generalizing wb i j with
  | nil =>
    cases h
    cases h'
    rfl
  | cons op ops ih =>
    obtain ⟨x, hx, h⟩ := Option.bind_eq_some_iff.mp h
    obtain ⟨y, hy, h'⟩ := Option.bind_eq_some_iff.mp h'
    obtain rfl := ih h h'
    exact sheet?_injective hx hy

/-- No two cells come to stand in one place. -/
theorem cellAfter?_injective (h : cellAfter? ops wb key = some moved)
    (h' : cellAfter? ops wb key' = some moved) : key = key' := by
  induction ops generalizing wb key key' with
  | nil =>
    cases h
    cases h'
    rfl
  | cons op ops ih =>
    obtain ⟨x, hx, h⟩ := Option.bind_eq_some_iff.mp h
    obtain ⟨y, hy, h'⟩ := Option.bind_eq_some_iff.mp h'
    obtain rfl := ih h h'
    exact cell?_injective hx hy

/-! ## 4. Operations behind a sheet or a range -/

/-- Sheets are removed behind a sheet only. -/
def SparesSheet (op : Operation) (i : Nat) : Prop :=
  ∀ removed, op = .removeSheet removed → i < removed

/-- Sheets are removed behind the sheet of a range only, and lines of that sheet are inserted and
    deleted behind the range only. -/
structure Spares (op : Operation) (sheet : Nat) (range : RangeRef) : Prop where
  sheets : op.SparesSheet sheet
  lines : ∀ edit, op = .editLines sheet edit → edit.axis.line range.bottomRight < edit.start

theorem sheet?_of_spares (h : op.SparesSheet i) : op.sheet? wb i = some i := by
  unfold sheet?
  split
  · cases op with
    | removeSheet removed =>
      have hlt := h removed rfl
      rw [shiftSheet?, if_neg (by omega), if_neg (by omega)]
    | _ => rfl
  · rfl

/-- Lines behind a rectangle are no matter to its cells. -/
theorem cell?_of_contains {edit : LineEdit} {range : RangeRef} {row col : Nat}
    (h : edit.axis.line range.bottomRight < edit.start) (hin : range.contains row col = true) :
    edit.cell? row col = some (row, col) := by
  obtain ⟨-, hrow, -, hcol⟩ := RangeRef.contains_iff.mp hin
  unfold LineEdit.cell? LineEdit.line?
  cases haxis : edit.axis <;> rw [haxis] at h
  · have hlt : row < edit.start := Nat.lt_of_le_of_lt hrow h
    simp [hlt]
  · have hlt : col < edit.start := Nat.lt_of_le_of_lt hcol h
    simp [hlt]

theorem cell?_of_spares {range : RangeRef} (h : op.Spares key.sheet range)
    (hin : range.contains key.row key.col = true) : op.cell? wb key = some key := by
  have hsheet : ((op.shiftSheet? key.sheet).map fun i => { key with sheet := i }) = some key := by
    cases op with
    | removeSheet removed =>
      have hlt := h.sheets removed rfl
      rw [shiftSheet?, if_neg (by omega), if_neg (by omega)]
      rfl
    | _ => rfl
  unfold cell?
  split
  · cases op with
    | editLines sheet edit =>
      rw [shiftCell?, LineEdit.key?]
      split
      · rename_i he
        subst he
        rw [cell?_of_contains (h.lines edit rfl) hin]
        rfl
      · rfl
    | _ => exact hsheet
  · rfl

/-- Removals behind a sheet leave it where it is. -/
theorem sheetAfter?_of_spares (h : ∀ op ∈ ops, op.SparesSheet i) :
    sheetAfter? ops wb i = some i := by
  induction ops generalizing wb with
  | nil => rfl
  | cons op ops ih =>
    rw [sheetAfter?, sheet?_of_spares (h op List.mem_cons_self), Option.bind_some]
    exact ih fun op' hop' => h op' (List.mem_cons_of_mem _ hop')

/-- **Removals, insertions and deletions behind a range leave its cells where they are.** -/
theorem cellAfter?_of_spares {range : RangeRef} (h : ∀ op ∈ ops, op.Spares key.sheet range)
    (hin : range.contains key.row key.col = true) : cellAfter? ops wb key = some key := by
  induction ops generalizing wb with
  | nil => rfl
  | cons op ops ih =>
    rw [cellAfter?, cell?_of_spares (h op List.mem_cons_self) hin, Option.bind_some]
    exact ih fun op' hop' => h op' (List.mem_cons_of_mem _ hop')

end Operation

end Gridcalc
