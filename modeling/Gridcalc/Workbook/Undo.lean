import Gridcalc.Workbook.Clipboard
import Gridcalc.Workbook.RowFilter
import Gridcalc.Workbook.Sheets
import Gridcalc.Workbook.Sorting

/-!
# Commands that can be undone

A command is an action together with what it takes to undo its last execution. Every action keeps
just as much as it changes: all sheets, one sheet, one cell, or which rows were hidden.

* `Action.perform` carries an action out, `Saved.restore` puts back what it kept;
* `Command.execute` and `Command.unexecute` do the same for a command.
-/

namespace Gridcalc

/-! ## 1. Actions -/

/-- What a command does. -/
inductive Action where
  | editLines (sheet : Nat) (edit : LineEdit)
  | setCell (sheet : Nat) (place : CellRef) (input : String)
  | paste (clipboard : Clipboard) (sheet : Nat) (corner : CellRef)
  | sort (sheet : Nat) (range : RangeRef) (order : SortOrder) (keyCol : Nat) (skipHeader : Bool)
  | filter (sheet : Nat) (range : RangeRef) (criterion : RowCriterion)
  | filterBy (sheet : Nat) (range : RangeRef) (admits : Worksheet → Nat → Bool)

/-- What it takes to undo an action. -/
inductive Saved where
  | sheets (all : List Worksheet)
  | sheet (index : Nat) (before : Worksheet)
  | cell (key : CellKey) (before : Option Cell)
  | hiddenRows (sheet : Nat) (range : RangeRef) (rows : List Nat)

/-- The hidden rows of a sheet within a range. -/
def Worksheet.hiddenIn (ws : Worksheet) (range : RangeRef) : List Nat :=
  ws.hiddenRows.filter fun row => range.firstRow ≤ row && row ≤ range.lastRow

/-- The input that a cell would be typed as; empty if there is no cell. -/
def inputTextOf (cell : Option Cell) : String := (cell.map Cell.inputText).getD ""

/-- Carries out a filter of a range, and keeps which of its rows were hidden before. -/
def filterKeeping (sheet : Nat) (range : RangeRef) (filter : Edit Nat) : Edit (Option Saved) := do
  let before := (← Edit.getSheet sheet).hiddenIn range
  let _ ← filter
  let after := (← Edit.getSheet sheet).hiddenIn range
  return if before = after then none else some (.hiddenRows sheet range before)

/-- Carries out an action. There is nothing to undo if nothing changes: no lines are inserted or
    deleted, the cell holds the input already, the clipboard is empty, there are no two rows to
    sort, or the same rows are hidden. -/
def Action.perform : Action → Edit (Option Saved)
  | .editLines sheet edit => do
    if edit.count = 0 then return none
    let before := (← get).sheets
    Edit.editLines sheet edit
    return some (.sheets before)
  | .setCell sheet place input => do
    let ws ← Edit.getSheet sheet
    let before ← Edit.lift (ws.cell? place.row place.col)
    if inputTextOf before = input then return none
    Edit.setInput sheet place.row place.col input
    return some (.cell ⟨sheet, place.row, place.col⟩ before)
  | .paste clipboard sheet corner => do
    let before := (← get).sheets
    let target ← Edit.pasteFrom clipboard sheet corner
    return target.map fun _ => .sheets before
  | .sort sheet range order keyCol skipHeader => do
    let before ← Edit.getSheet sheet
    let sorted ← Edit.sort sheet range order keyCol skipHeader
    return if sorted then some (.sheet sheet before) else none
  | .filter sheet range criterion =>
    filterKeeping sheet range (Edit.filter sheet range criterion)
  | .filterBy sheet range admits =>
    filterKeeping sheet range (Edit.filterBy sheet range admits)

/-! ## 2. Undoing -/

/-- The workbook with other sheets; batches stay with the places of the sheets. -/
def Workbook.withSheets (wb : Workbook) (sheets : List Worksheet) : Workbook :=
  { wb with tabs := sheets.mapIdx fun i sheet =>
      { sheet, batch := ((wb.tabs[i]?).map Tab.batch).getD {} } }

/-- Puts back what an action kept. -/
def Saved.restore : Saved → Edit Unit
  | .sheets all => do
    modify (·.withSheets all)
    Edit.rebuild
  | .sheet index before => do
    Edit.checkSheet index
    Edit.putSheet index before
    Edit.rebuild
  | .cell key before => do
    Edit.putCell key before
    let _ ← Edit.recalculate [key]
  | .hiddenRows index range rows => do
    Edit.checkSheet index
    let hidden := Std.ExtTreeSet.ofList rows
    Edit.setRowsHidden index range.rows hidden.contains

/-! ## 3. Commands -/

/-- An action with what it takes to undo its last execution. -/
structure Command where
  action : Action
  saved : Option Saved := none

namespace Command

/-- Carries out the action of a command and says whether anything changed; only then the command
    keeps something new. -/
def execute (c : Command) : Edit (Bool × Command) := do
  match ← c.action.perform with
  | none => return (false, c)
  | some saved => return (true, { c with saved := some saved })

/-- Undoes the last execution of a command. -/
def unexecute (c : Command) : Edit Unit :=
  match c.saved with
  | none => throw .notExecuted
  | some saved => saved.restore

/-- The command after it was undone, or after that was refused: nothing is left to undo. -/
def spent (c : Command) : Command := { c with saved := none }

end Command

end Gridcalc
