import Gridcalc.Value.Order
import Gridcalc.Workbook.Cells

/-!
# Sorting a range

The rows of a range are put into the order of the values in one of its columns. A range of a single
row is sorted by columns instead. Cells move as they are: the text of a formula does not change.

* `compareKeys` is the order of keys, `stableSort` sorts by it;
* `sortSlots` lists the places that move as a whole;
* `Edit.sort` sorts a range of a sheet.

Rows with equal keys keep their order.
-/

namespace Gridcalc

/-! ## 1. Keys -/

inductive SortOrder where
  | ascending
  | descending
  deriving DecidableEq, Repr

/-- The order of keys. Blank keys, which are no value or an empty text, come last in both
    directions. -/
def compareKeys (order : SortOrder) (a b : Value) : Ordering :=
  match a.isBlank, b.isBlank with
  | true, true => .eq
  | true, false => .gt
  | false, true => .lt
  | false, false =>
    match order with
    | .ascending => a.compare b
    | .descending => (a.compare b).swap

/-! ## 2. Stable sorting -/

/-- Puts an element behind those that it does not come before. The list runs from the last element
    to the first. -/
def insertBehind {α : Type} (before : α → α → Bool) (x : α) : List α → List α
  | [] => [x]
  | y :: ys => if before x y then y :: insertBehind before x ys else x :: y :: ys

/-- Sorts by putting the elements in place one after another; equal ones keep their order. -/
def stableSort {α : Type} (before : α → α → Bool) (xs : List α) : List α :=
  (xs.foldl (fun placed x => insertBehind before x placed) []).reverse

/-- Nothing is lost or added when an element is put in place. -/
theorem insertBehind_perm {α : Type} (before : α → α → Bool) (x : α) (ys : List α) :
    (insertBehind before x ys).Perm (x :: ys) := by
  induction ys with
  | nil => exact .refl _
  | cons y ys ih =>
    unfold insertBehind
    split
    · exact (ih.cons y).trans (.swap x y ys)
    · exact .refl _

/-! ## 3. Slots and records -/

/-- The places of a range whose contents move as a whole: its rows, without a header if it has one,
    or the cells of its only row. -/
def sortSlots (range : RangeRef) (skipHeader : Bool) : List (List (Nat × Nat)) :=
  if range.rowCount = 1 then range.cols.map fun col => [(range.firstRow, col)]
  else (range.rows.drop skipHeader.toNat).map fun row => range.cols.map fun col => (row, col)

/-- The contents of a slot with their key. -/
structure SortRecord where
  key : Value
  cells : List (Option Cell)

/-- Reads a slot. A slot of one cell is its own key. -/
def SortRecord.read (ws : Worksheet) (keyCol : Nat) (slot : List (Nat × Nat)) : SortRecord :=
  let place := slot.find? fun (_, col) => slot.length == 1 || col == keyCol
  { key := (place.map fun (row, col) => ws.valueAt row col).getD .empty
    cells := slot.map fun (row, col) => ws.get? row col }

/-- The places of some slots with the cells that are there after sorting. -/
def sortedCells (ws : Worksheet) (order : SortOrder) (keyCol : Nat)
    (slots : List (List (Nat × Nat))) : List ((Nat × Nat) × Option Cell) :=
  let before (a b : SortRecord) : Bool := compareKeys order a.key b.key = .lt
  let records := stableSort before (slots.map (SortRecord.read ws keyCol))
  (slots.zip records).flatMap fun (slot, record) => slot.zip record.cells

/-! ## 4. Sorting -/

/-- Sorts a range by the values of a column of the sheet, and says whether there was anything to
    order. For a single row neither the column nor the header matters. -/
def Edit.sort (sheet : Nat) (range : RangeRef) (order : SortOrder) (keyCol : Nat)
    (skipHeader : Bool) : Edit Bool := do
  let ws ← getSheet sheet
  if !ws.containsRange range then throw (.invalidRange (.sortBeyondSheet range ws.name))
  if range.rowCount ≠ 1 ∧ ¬(range.firstCol ≤ keyCol ∧ keyCol ≤ range.lastCol) then
    throw (.invalidRange (.keyOutside keyCol range))
  let slots := sortSlots range skipHeader
  if slots.length < 2 then return false
  let placed := sortedCells ws order keyCol slots
  placed.forM fun ((row, col), cell) => putCell ⟨sheet, row, col⟩ cell
  let _ ← recalculate (placed.map fun ((row, col), _) => ⟨sheet, row, col⟩)
  return true

end Gridcalc
