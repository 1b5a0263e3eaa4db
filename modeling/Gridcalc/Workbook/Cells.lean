import Gridcalc.Workbook.Recalculation

/-!
# Cells of a workbook

Reading and writing cells. A write keeps the style of the cell and evaluates everything that
depends on it.

* `value`, `formula` and `evaluateAt` read, `setInput`, `setValue`, `setFormula`, `clearCell` and
  `setStyle` write;
* `atAddress` applies any of them to a cell by its written address.
-/

namespace Gridcalc

/-- The cell that a user's input stands for: a formula if it starts with an equals sign and goes on,
    and otherwise a literal. -/
def Cell.ofInput (input : String) : Cell :=
  match input.toList with
  | '=' :: _ :: _ => .ofFormula input
  | _ => .ofValue (.ofInput input)

namespace Edit

/-! ## 1. Reading -/

/-- The value of a cell. -/
def value (sheet row col : Nat) : Edit Value := do
  lift ((← getSheet sheet).value row col)

/-- The text of the formula of a cell. -/
def formula (sheet row col : Nat) : Edit (Option String) := do
  let ws ← getSheet sheet
  lift (ws.validate row col)
  return ws.formulaAt? row col

/-- What a formula would come to in a cell. -/
def evaluateAt (sheet row col : Nat) (formula : String) : Edit Value := do
  let ws ← getSheet sheet
  lift (ws.validate row col)
  let wb ← get
  return formulaValue { sheets := wb.sheets, sheet, row, col, ambient := wb.ambient }
    (parseFormula formula).root

/-! ## 2. Writing -/

/-- Stores a cell, or takes it out if there is nothing to store, and reads its formula. -/
def putCell (key : CellKey) (cell : Option Cell) : Edit Unit := do
  let ws ← getSheet key.sheet
  let cell := cell.getD {}
  let stored ← lift (if cell.isBlank then (ws.takeCell key.row key.col).map (·.2)
    else ws.setCell key.row key.col cell)
  putSheet key.sheet stored
  modify (·.register key)

/-- Puts other contents into a cell, in its style, and evaluates what depends on it. -/
def writeContents (sheet row col : Nat) (cell : Cell) : Edit Unit := do
  let ws ← getSheet sheet
  putCell ⟨sheet, row, col⟩ (some (cell.withStyle (ws.styleAt row col)))
  let _ ← recalculate [⟨sheet, row, col⟩]

/-- Writes a user's input. -/
def setInput (sheet row col : Nat) (input : String) : Edit Unit :=
  writeContents sheet row col (.ofInput input)

/-- Writes a literal value. -/
def setValue (sheet row col : Nat) (v : Value) : Edit Unit :=
  writeContents sheet row col (.ofValue v)

/-- Writes a formula; an equals sign is put in front if there is none. -/
def setFormula (sheet row col : Nat) (formula : String) : Edit Unit :=
  let text := if formula.toList.head? = some '=' then formula else "=" ++ formula
  writeContents sheet row col (.ofFormula text)

/-- Takes the contents out of a cell; its style stays. -/
def clearCell (sheet row col : Nat) : Edit Unit := writeContents sheet row col {}

/-- Gives a cell a style. A cell without contents is stored for its style only as long as that is
    not the default. -/
def setStyle (sheet row col style : Nat) : Edit Unit := do
  let ws ← getSheet sheet
  let ws ← lift (ws.setStyle row col style)
  putSheet sheet { ws with store := match ws.get? row col with
    | some cell => ws.store.set row col cell
    | none => ws.store }

/-! ## 3. Written addresses -/

/-- An operation on the cell with a written address. The sheet is looked at first. -/
def atAddress {α : Type} (sheet : Nat) (address : String) (op : Nat → Nat → Nat → Edit α) :
    Edit α := do
  checkSheet sheet
  let r ← lift (CellRef.read address)
  op sheet r.row r.col

end Edit

end Gridcalc
