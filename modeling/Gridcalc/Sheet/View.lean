import Gridcalc.Sheet.Worksheet

/-!
# Views of rectangles

A rectangle of a sheet as functions see it: positions are counted from its top left corner, and a
place without a cell has no value.
-/

namespace Gridcalc

/-- A rectangle of a sheet. -/
structure RangeView where
  sheet : Worksheet
  range : RangeRef

namespace RangeView

def rowCount (v : RangeView) : Nat := v.range.rowCount

def colCount (v : RangeView) : Nat := v.range.colCount

def cellCount (v : RangeView) : Nat := v.range.cellCount

/-- The position on the sheet of a place counted from the corner. -/
def absolute (v : RangeView) (row col : Nat) : CellRef :=
  CellRef.ofIndices (v.range.firstRow + row) (v.range.firstCol + col)

/-- The value at a place counted from the corner; no value outside the rectangle. -/
def value (v : RangeView) (row col : Nat) : Value :=
  if v.rowCount ≤ row ∨ v.colCount ≤ col then .empty
  else v.sheet.valueAt (v.range.firstRow + row) (v.range.firstCol + col)

/-- The positions of the rectangle with their values, row by row. -/
def cells (v : RangeView) : List (CellRef × Value) :=
  v.range.cells.map fun r => (r, v.sheet.valueAt r.row r.col)

/-- The values of the rectangle, row by row. -/
def values (v : RangeView) : List Value := v.cells.map (·.2)

/-- The values of a row counted from the corner. -/
def rowValues (v : RangeView) (row : Nat) : List Value :=
  (List.range v.colCount).map fun col => v.value row col

/-- The values of a column counted from the corner. -/
def colValues (v : RangeView) (col : Nat) : List Value :=
  (List.range v.rowCount).map fun row => v.value row col

/-- The value of a rectangle of one cell. -/
def single? (v : RangeView) : Option Value := if v.cellCount = 1 then some (v.value 0 0) else none

end RangeView

end Gridcalc
