import Gridcalc.Dependency.Graph
import Gridcalc.Evaluation.Context
import Gridcalc.Formula.Expr
import Gridcalc.Sheet.Worksheet

/-!
# Workbooks

Sheets in order, each with its update batch, and what is known of their formulas.

* `Workbook` is the state, `Edit` an operation on it that may be refused;
* `Workbook.create` is the workbook to start with;
* `checkSheet`, `getSheet` and `putSheet` are the steps that every operation is made of.

An operation that is refused part of the way keeps what it has changed so far; that the operations
check everything first is a property of theirs.
-/

namespace Gridcalc

/-! ## 1. The state -/

/-- The update batch of a sheet: while it is open, cells of the sheet are not evaluated but
    noted. -/
structure Batch where
  isOpen : Bool := false
  dirty : CellSet := ∅

/-- A sheet of a workbook with its batch. -/
structure Tab where
  sheet : Worksheet
  batch : Batch := {}

/-- What is known of the formulas of a workbook: their trees, what they read, and which of them have
    to be evaluated every time. -/
structure CalcState where
  graph : Graph := {}
  formulas : Std.ExtTreeMap CellKey (Option Expr) := ∅
  volatile : CellSet := ∅

/-- The size of sheets that are added without one. -/
structure Settings where
  rowCount : Nat := 1000
  colCount : Nat := 26
  deriving DecidableEq, Repr

/-- A workbook. -/
structure Workbook where
  tabs : List Tab
  calcState : CalcState := {}
  /-- Whether formulas that give another result each time are evaluated on every recalculation. -/
  evaluatesVolatile : Bool := true
  settings : Settings := {}
  /-- The time and the random draws for the next recalculation. -/
  ambient : Ambient

namespace Workbook

/-- A workbook with one sheet. -/
def create (settings : Settings) (ambient : Ambient) : Workbook :=
  { tabs := [{ sheet := Worksheet.create "Sheet1" settings.rowCount settings.colCount }]
    settings
    ambient }

/-! ## 2. Sheets -/

def sheets (wb : Workbook) : List Worksheet := wb.tabs.map Tab.sheet

def sheet? (wb : Workbook) (i : Nat) : Option Worksheet := (wb.tabs[i]?).map Tab.sheet

/-- The sheet with a name, ASCII case aside. -/
def sheetIndex? (wb : Workbook) (name : String) : Option Nat := sheetNamed? wb.sheets name

/-- The workbook with another sheet in a place. -/
def withSheet (wb : Workbook) (i : Nat) (ws : Worksheet) : Workbook :=
  { wb with tabs := wb.tabs.modify i fun tab => { tab with sheet := ws } }

/-- The workbook with every sheet changed. -/
def mapSheets (wb : Workbook) (f : Nat → Worksheet → Worksheet) : Workbook :=
  { wb with tabs := wb.tabs.mapIdx fun i tab => { tab with sheet := f i tab.sheet } }

/-- Whether a sheet has an open batch. -/
def isUpdating (wb : Workbook) (i : Nat) : Bool :=
  ((wb.tabs[i]?).map fun tab => tab.batch.isOpen).getD false

end Workbook

/-! ## 3. Operations -/

/-- An operation on a workbook that may be refused. -/
abbrev Edit := EStateM Failure Workbook

namespace Edit

/-- A refusal or result of a part of the workbook. -/
def lift {α : Type} : Except Failure α → Edit α
  | .ok a => pure a
  | .error e => throw e

/-- Refuses an index without a sheet. -/
def checkSheet (i : Nat) : Edit Unit := do
  let wb ← get
  if wb.tabs.length ≤ i then throw (.sheetOutOfBounds i wb.tabs.length)

/-- The sheet with an index. -/
def getSheet (i : Nat) : Edit Worksheet := do
  let wb ← get
  match wb.sheet? i with
  | some ws => return ws
  | none => throw (.sheetOutOfBounds i wb.tabs.length)

/-- Puts another sheet in a place. -/
def putSheet (i : Nat) (ws : Worksheet) : Edit Unit := modify fun wb => wb.withSheet i ws

end Edit

end Gridcalc
