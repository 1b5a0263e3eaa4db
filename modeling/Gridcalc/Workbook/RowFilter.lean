import Gridcalc.Value.Coercion
import Gridcalc.Value.Order
import Gridcalc.Workbook.Basic

/-!
# Filtering rows

A filter hides the rows of a range that fail a criterion and shows those that pass.

* `RowCriterion` is a test on the cells of a row, `RowCriterion.admits` what it says;
* `Edit.filter` and `Edit.clearFilter` hide and show the rows of a range, `Edit.filterBy` does it by
  a test of any other kind.

Hiding a row evaluates nothing.
-/

namespace Gridcalc

/-! ## 1. Criteria -/

/-- A test on the cells of a row; columns are those of the sheet. -/
inductive RowCriterion where
  | equals (column : Nat) (value : Value)
  | greater (column : Nat) (value : Value)
  | less (column : Nat) (value : Value)
  | all (parts : List RowCriterion)
  | any (parts : List RowCriterion)
  deriving Repr, Inhabited

/-- A value as a number; a text that reads as a number is one. -/
def Value.filterNumber? : Value → Option Float
  | .text s => readNumber? (Text.trim s.toList)
  | .empty => none
  | v => v.number?

/-- How a value of a row stands to a wanted one, if the two compare. -/
def filterOrder? (v wanted : Value) : Option Ordering :=
  match v.filterNumber?, wanted.filterNumber? with
  | some a, some b => numberOrder? a b
  | _, _ =>
    match v, wanted with
    | .text _, .text _ => some (v.compare wanted)
    | .boolean _, .boolean _ => some (v.compare wanted)
    | _, _ => none

/-- Whether a value is the wanted one. No value and the empty text are the same. -/
def filterEquals (v wanted : Value) : Bool :=
  match v, wanted with
  | .empty, w | w, .empty => w.isBlank
  | v, w => filterOrder? v w = some .eq

mutual

/-- Whether a row of a sheet passes. -/
def RowCriterion.admits (ws : Worksheet) (row : Nat) : RowCriterion → Bool
  | .equals col v => filterEquals (ws.valueAt row col) v
  | .greater col v => filterOrder? (ws.valueAt row col) v = some .gt
  | .less col v => filterOrder? (ws.valueAt row col) v = some .lt
  | .all parts => RowCriterion.everyAdmits ws row parts
  | .any parts => RowCriterion.someAdmits ws row parts

/-- Whether a row passes every one of some criteria. -/
def RowCriterion.everyAdmits (ws : Worksheet) (row : Nat) : List RowCriterion → Bool
  | [] => true
  | c :: cs => c.admits ws row && RowCriterion.everyAdmits ws row cs

/-- Whether a row passes one of some criteria. -/
def RowCriterion.someAdmits (ws : Worksheet) (row : Nat) : List RowCriterion → Bool
  | [] => false
  | c :: cs => c.admits ws row || RowCriterion.someAdmits ws row cs

end

/-! ## 2. Hiding rows -/

namespace Edit

/-- Hides or shows one row. -/
def setRowHidden (sheet row : Nat) (hide : Bool) : Edit Unit := do
  let ws ← getSheet sheet
  putSheet sheet (← lift (ws.setHidden row hide))

/-- Hides some rows and shows others, from the first to the last. -/
def setRowsHidden (sheet : Nat) (rows : List Nat) (hide : Nat → Bool) : Edit Unit :=
  rows.forM fun row => setRowHidden sheet row (hide row)

/-- The sheet with an index, provided that a range lies in it. -/
def getSheetWith (sheet : Nat) (range : RangeRef) : Edit Worksheet := do
  let ws ← getSheet sheet
  if ws.containsRange range then return ws
  else throw (.invalidRange (.beyondSheet range))

/-- Hides the rows of a range that fail a criterion and shows the others; gives the number of rows
    hidden. -/
def filter (sheet : Nat) (range : RangeRef) (criterion : RowCriterion) : Edit Nat := do
  let ws ← getSheetWith sheet range
  let fails (row : Nat) : Bool := !criterion.admits ws row
  setRowsHidden sheet range.rows fails
  return range.rows.countP fails

/-- Hides those of some rows that fail a test and shows the others; gives the number of rows hidden.
    The test sees the rows before as they are by then. -/
def hideFailing (sheet : Nat) (admits : Worksheet → Nat → Bool) : List Nat → Edit Nat
  | [] => return 0
  | row :: rows => do
    let fails := !admits (← getSheet sheet) row
    setRowHidden sheet row fails
    return fails.toNat + (← hideFailing sheet admits rows)

/-- A filter by any test on the rows of a sheet. -/
def filterBy (sheet : Nat) (range : RangeRef) (admits : Worksheet → Nat → Bool) : Edit Nat := do
  let _ ← getSheetWith sheet range
  hideFailing sheet admits range.rows

/-- Shows every row of a range. -/
def clearFilter (sheet : Nat) (range : RangeRef) : Edit Unit := do
  let _ ← getSheetWith sheet range
  setRowsHidden sheet range.rows fun _ => false

end Edit

end Gridcalc
