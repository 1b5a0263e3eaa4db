import Gridcalc.Formula.Relocate
import Gridcalc.Workbook.Recalculation

/-!
# Adding, removing and changing sheets

* `addSheet`, `removeSheet`, `renameSheet` change the list of sheets; all formulas are read anew,
  since names may mean other sheets afterwards;
* `editLines` inserts and deletes rows and columns, and formulas follow the cells they refer to.
-/

namespace Gridcalc

/-! ## 1. Names -/

/-- The characters that no sheet name may hold. -/
def forbiddenInSheetName : List Char := [':', '\\', '/', '?', '*', '[', ']']

/-- Why a text is no sheet name. -/
def sheetNameFault? (name : List Char) : Option SheetNameFault :=
  if name.isEmpty then some .empty
  else if maxSheetName < name.length then some .tooLong
  else (name.find? forbiddenInSheetName.contains).map .badCharacter

/-- Refuses a name that no sheet may have, or that another sheet than the one at `except` has. -/
def Workbook.checkSheetName (wb : Workbook) (name : String) (except : Option Nat) :
    Except Failure Unit :=
  match sheetNameFault? name.toList with
  | some fault => .error (.invalidSheetName fault)
  | none =>
    let isTaken := wb.sheets.zipIdx.any fun (ws, i) =>
      decide (except ≠ some i) && Text.sameIgnoringCase ws.name name
    if isTaken then .error (.duplicateSheetName name) else .ok ()

/-! ## 2. Sheets by themselves -/

/-- A sheet with every formula text changed; the cached values stay. -/
def Worksheet.mapFormulas (ws : Worksheet) (f : String → String) : Worksheet :=
  { ws with store := { ws.store with
      rows := ws.store.rows.map fun _ cells => cells.map fun _ cell =>
        { cell with formula := cell.formula.map f } } }

/-- A sheet after an insertion or deletion; its formulas are not looked at. -/
def Worksheet.applyEdit (ws : Worksheet) (edit : LineEdit) : Except Failure Worksheet :=
  match edit.axis, edit.inserts with
  | .row, true => ws.insertRows edit.start edit.count
  | .row, false => ws.deleteRows edit.start edit.count
  | .column, true => ws.insertColumns edit.start edit.count
  | .column, false => ws.deleteColumns edit.start edit.count

namespace Edit

/-! ## 3. The list of sheets -/

/-- Adds an empty sheet of a size, and gives its index. -/
def addSheetOfSize (name : String) (rows cols : Nat) : Edit Nat := do
  let wb ← get
  lift (wb.checkSheetName name none)
  let tab : Tab := { sheet := Worksheet.create name rows cols }
  set { wb with tabs := wb.tabs ++ [tab] }
  rebuild
  return wb.tabs.length

/-- Adds an empty sheet of the usual size. -/
def addSheet (name : String) : Edit Nat := do
  let settings := (← get).settings
  addSheetOfSize name settings.rowCount settings.colCount

/-- Takes a sheet out. The last one has to stay. -/
def removeSheet (i : Nat) : Edit Worksheet := do
  let ws ← getSheet i
  let wb ← get
  if wb.tabs.length = 1 then throw .lastSheet
  set { wb with tabs := wb.tabs.eraseIdx i }
  rebuild
  return ws

/-- Gives a sheet another name, which every formula that names it follows. -/
def renameSheet (i : Nat) (name : String) : Edit Unit := do
  let ws ← getSheet i
  let wb ← get
  lift (wb.checkSheetName name (some i))
  let wb := wb.mapSheets fun _ sheet => sheet.mapFormulas (renameInFormula ws.name name)
  set (wb.mapSheets fun j sheet => if j = i then { sheet with name } else sheet)
  rebuild

/-! ## 4. Rows and columns -/

/-- Inserts or deletes rows or columns of a sheet. Formulas everywhere follow the cells they refer
    to. -/
def editLines (i : Nat) (edit : LineEdit) : Edit Unit := do
  let ws ← getSheet i
  putSheet i (← lift (ws.applyEdit edit))
  modify (·.mapSheets fun j sheet => sheet.mapFormulas (followEdit edit ws.name (j = i)))
  rebuild

end Edit

end Gridcalc
