import Gridcalc.Address.Reading
import Gridcalc.Sheet.Store

/-!
# Worksheets

A named grid of a fixed size with its stored cells. Reading and writing outside the grid is
refused; the size changes by inserting and deleting rows and columns only.

* `Worksheet.get?`, `valueAt`, `formulaAt?` read a position without looking at the bounds, `cell?`
  and `value` check them;
* `setCell`, `takeCell`, `touch`, `setStyle`, `setCached`, `setHidden` change a sheet;
* `insertRows`, `deleteRows`, `insertColumns`, `deleteColumns` move what is stored. References in
  formulas are the business of the workbook.
-/

namespace Gridcalc

/-- A sheet: name, size and contents. -/
structure Worksheet where
  name : String
  rowCount : Nat
  colCount : Nat
  store : CellStore := {}

namespace Worksheet

/-- An empty sheet. The size is moved into what a sheet can have. -/
def create (name : String) (rows cols : Nat) : Worksheet :=
  { name, rowCount := max 1 (min rows maxRows), colCount := max 1 (min cols maxColumns) }

/-! ## 1. Bounds -/

/-- Whether a position lies in the grid. -/
def inBounds (ws : Worksheet) (row col : Nat) : Bool := row < ws.rowCount && col < ws.colCount

/-- Refuses a position outside the grid; the row is looked at first. -/
def validate (ws : Worksheet) (row col : Nat) : Except Failure Unit :=
  if ws.rowCount ≤ row then .error (.rowOutOfBounds row (ws.rowCount - 1))
  else if ws.colCount ≤ col then .error (.columnOutOfBounds col (ws.colCount - 1))
  else .ok ()

/-- Whether a whole rectangle lies in the grid. -/
def containsRange (ws : Worksheet) (r : RangeRef) : Bool := ws.inBounds r.lastRow r.lastCol

theorem validate_eq_ok_iff {ws : Worksheet} {row col : Nat} :
    ws.validate row col = .ok () ↔ ws.inBounds row col = true := by
  simp only [validate, inBounds, Bool.and_eq_true, decide_eq_true_eq]
  split
  · simp; omega
  · split
    · simp; omega
    · simp; omega

/-! ## 2. Reading -/

/-- The cell stored at a position. -/
def get? (ws : Worksheet) (row col : Nat) : Option Cell := ws.store.get? row col

/-- The value at a position, if a cell is stored there. -/
def value? (ws : Worksheet) (row col : Nat) : Option Value := (ws.get? row col).map Cell.value

/-- The value at a position; no value where no cell is stored. -/
def valueAt (ws : Worksheet) (row col : Nat) : Value := (ws.value? row col).getD .empty

/-- The formula at a position. -/
def formulaAt? (ws : Worksheet) (row col : Nat) : Option String :=
  (ws.get? row col).bind Cell.formula

/-- The style at a position. -/
def styleAt (ws : Worksheet) (row col : Nat) : Nat := ((ws.get? row col).map Cell.style).getD 0

/-- The cell stored at a position of the grid. -/
def cell? (ws : Worksheet) (row col : Nat) : Except Failure (Option Cell) := do
  ws.validate row col
  return ws.get? row col

/-- The value at a position of the grid. -/
def value (ws : Worksheet) (row col : Nat) : Except Failure Value := do
  ws.validate row col
  return ws.valueAt row col

/-- The stored cells, row by row. -/
def cells (ws : Worksheet) : List (Nat × Nat × Cell) := ws.store.cells

/-- The formulas of the sheet with their positions, row by row. -/
def formulaCells (ws : Worksheet) : List (Nat × Nat × String) :=
  ws.cells.filterMap fun (row, col, cell) => cell.formula.map fun text => (row, col, text)

/-- The smallest rectangle that holds every stored cell. -/
def usedRange? (ws : Worksheet) : Option RangeRef :=
  ws.store.bounds.map fun (top, left, bottom, right) => RangeRef.between top left bottom right

/-! ## 3. Writing -/

/-- Stores a cell in place of what was there. -/
def setCell (ws : Worksheet) (row col : Nat) (cell : Cell) : Except Failure Worksheet := do
  ws.validate row col
  return { ws with store := ws.store.set row col cell }

/-- Takes the cell at a position out of the sheet. -/
def takeCell (ws : Worksheet) (row col : Nat) : Except Failure (Option Cell × Worksheet) := do
  ws.validate row col
  return (ws.get? row col, { ws with store := ws.store.erase row col })

/-- Changes a cell, which is stored first if it was not. -/
def changeCell (ws : Worksheet) (row col : Nat) (f : Cell → Cell) : Except Failure Worksheet := do
  ws.validate row col
  return { ws with store := (ws.store.touch row col).modify row col f }

/-- Makes sure that a cell is stored. -/
def touch (ws : Worksheet) (row col : Nat) : Except Failure Worksheet := ws.changeCell row col id

/-- Gives a cell a style. -/
def setStyle (ws : Worksheet) (row col style : Nat) : Except Failure Worksheet :=
  ws.changeCell row col (·.withStyle style)

/-- Gives a stored cell the value that its formula came to. -/
def setCached (ws : Worksheet) (row col : Nat) (v : Value) : Worksheet :=
  { ws with store := ws.store.modify row col (·.withValue v) }

/-! ## 4. Hidden rows -/

def isHidden (ws : Worksheet) (row : Nat) : Bool := ws.store.isHidden row

/-- Hides or shows a row. -/
def setHidden (ws : Worksheet) (row : Nat) (hide : Bool) : Except Failure Worksheet :=
  if ws.rowCount ≤ row then .error (.rowOutOfBounds row (ws.rowCount - 1))
  else .ok { ws with store := ws.store.setHidden row hide }

def hiddenRows (ws : Worksheet) : List Nat := ws.store.hiddenRows

/-! ## 5. Inserting and deleting -/

/-- Inserts empty rows before a row. A size that no sheet can have is named as a row index is
    stored. -/
def insertRows (ws : Worksheet) (start count : Nat) : Except Failure Worksheet :=
  if ws.rowCount < start then .error (.rowOutOfBounds start ws.rowCount)
  else if maxRows < ws.rowCount + count then
    .error (.rowOutOfBounds ((ws.rowCount + count) % CellStore.rowLimit) maxRows)
  else .ok { ws with store := ws.store.insertRows start count, rowCount := ws.rowCount + count }

/-- Deletes rows; at least one has to go and at least one has to stay. -/
def deleteRows (ws : Worksheet) (start count : Nat) : Except Failure Worksheet :=
  if count = 0 ∨ ws.rowCount < start + count then
    .error (.invalidRange (.rowsBeyond start (start + count) ws.rowCount))
  else if ws.rowCount ≤ count then .error (.invalidRange .everyRow)
  else .ok { ws with store := ws.store.deleteRows start count, rowCount := ws.rowCount - count }

/-- Inserts empty columns before a column. -/
def insertColumns (ws : Worksheet) (start count : Nat) : Except Failure Worksheet :=
  if ws.colCount < start then .error (.columnOutOfBounds start ws.colCount)
  else if maxColumns < ws.colCount + count then
    .error (.columnOutOfBounds maxColumns (maxColumns - 1))
  else .ok { ws with store := ws.store.insertColumns start count, colCount := ws.colCount + count }

/-- Deletes columns; at least one has to go and at least one has to stay. -/
def deleteColumns (ws : Worksheet) (start count : Nat) : Except Failure Worksheet :=
  if count = 0 ∨ ws.colCount < start + count then
    .error (.invalidRange (.columnsBeyond start (start + count) ws.colCount))
  else if ws.colCount ≤ count then .error (.invalidRange .everyColumn)
  else .ok { ws with store := ws.store.deleteColumns start count, colCount := ws.colCount - count }

end Worksheet

end Gridcalc
