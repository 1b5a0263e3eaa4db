import Gridcalc.Dependency.Closure
import Gridcalc.Dependency.Precedents
import Gridcalc.Dependency.Schedule
import Gridcalc.Evaluation.Evaluate
import Gridcalc.Formula.Parse
import Gridcalc.Workbook.Basic

/-!
# Recalculation

Every formula is read when it is stored, and what it reads is kept in the dependency graph. After a
change the changed cells and everything downstream of them are evaluated in the order of the
schedule; cells that read themselves in a circle get a circularity error. Cells of a sheet with an
open batch are set aside for that batch.

* `Workbook.register` reads the formula of a cell, `Workbook.rebuild` those of all cells;
* `Workbook.recalculate` evaluates what depends on some cells;
* `beginUpdate`, `endUpdate` and `withBatch` open and close batches.
-/

namespace Gridcalc

/-! ## 1. Reading formulas -/

namespace CalcState

/-- Forgets the formula of a cell. -/
def forget (state : CalcState) (key : CellKey) : CalcState :=
  { graph := state.graph.removePrecedents key
    formulas := state.formulas.erase key
    volatile := state.volatile.erase key }

/-- Notes the tree of a formula and the cells it reads. -/
def note (state : CalcState) (key : CellKey) (root : Option Expr) (precedents : List CellKey) :
    CalcState :=
  let volatile := (root.map Expr.isVolatile).getD false
  { graph := state.graph.setPrecedents key precedents
    formulas := state.formulas.insert key root
    volatile := if volatile then state.volatile.insert key else state.volatile.erase key }

end CalcState

namespace Workbook

/-- The text of the formula of a cell. -/
def formulaText? (wb : Workbook) (key : CellKey) : Option String :=
  (wb.sheet? key.sheet).bind fun ws => ws.formulaAt? key.row key.col

/-- Reads the formula of a cell, if it has one, and notes what it reads. -/
def register (wb : Workbook) (key : CellKey) : Workbook :=
  match wb.formulaText? key with
  | none => { wb with calcState := wb.calcState.forget key }
  | some text =>
    let root := (parseFormula text).root
    let precedents := (root.map (precedentsOf wb.sheets key.sheet)).getD []
    { wb with calcState := wb.calcState.note key root precedents }

/-! ## 2. Passes -/

/-- What a recalculation did. -/
structure PassReport where
  /-- How many formulas there are. -/
  formulas : Nat := 0
  /-- How many cells were evaluated. -/
  calculated : Nat := 0
  /-- How many cells got a circularity error. -/
  circular : Nat := 0
  /-- How many cells took part because they give another result each time. -/
  volatile : Nat := 0
  /-- How many cells were set aside for open batches. -/
  deferred : Nat := 0
  deriving DecidableEq, Repr

/-- The sheets during a pass, with the numbers of cells evaluated and found circular. -/
structure PassState where
  sheets : List Worksheet
  calculated : Nat := 0
  circular : Nat := 0

/-- The sheets with a value that a formula came to. -/
def storeResult (sheets : List Worksheet) (key : CellKey) (v : Value) : List Worksheet :=
  sheets.modify key.sheet fun ws => ws.setCached key.row key.col v

/-- Evaluates one cell, if it holds a formula. -/
def evaluateCell (state : CalcState) (ambient : Ambient) (s : PassState) (key : CellKey) :
    PassState :=
  match state.formulas[key]? with
  | none => s
  | some root =>
    let ctx : Context :=
      { sheets := s.sheets, sheet := key.sheet, row := key.row, col := key.col, ambient }
    { s with
      sheets := storeResult s.sheets key (formulaValue ctx root)
      calculated := s.calculated + 1 }

/-- Gives one cell a circularity error, if it holds a formula. -/
def markCircular (state : CalcState) (s : PassState) (key : CellKey) : PassState :=
  if state.formulas.contains key then
    { s with
      sheets := storeResult s.sheets key (.error .circular)
      circular := s.circular + 1 }
  else s

/-- Evaluates the cells of a group. -/
def evaluateGroup (state : CalcState) (ambient : Ambient) (s : PassState) (group : CalcGroup) :
    PassState :=
  group.cells.foldl (if group.cyclic then markCircular state else evaluateCell state ambient) s

/-- Sets cells aside for the open batches of their sheets. -/
def defer (tabs : List Tab) (cells : CellSet) : List Tab :=
  tabs.mapIdx fun i tab =>
    { tab with batch := { tab.batch with
        dirty := cells.foldl (fun set key => if key.sheet = i then set.insert key else set)
          tab.batch.dirty } }

/-- The cells that a pass starts from. -/
def passSeeds (wb : Workbook) (seeds : List CellKey) : List CellKey :=
  if wb.evaluatesVolatile then seeds ++ wb.calcState.volatile.toList else seeds

/-- Evaluates some cells and everything downstream of them. -/
def recalculate (wb : Workbook) (seeds : List CellKey) : PassReport × Workbook :=
  let dirty := wb.calcState.graph.dirtyClosure (wb.passSeeds seeds)
  let waiting := dirty.filter fun key => wb.isUpdating key.sheet
  let ready := dirty.filter fun key => !wb.isUpdating key.sheet
  let groups := wb.calcState.graph.schedule ready
  let done := groups.foldl (evaluateGroup wb.calcState wb.ambient) { sheets := wb.sheets }
  let tabs := (defer wb.tabs waiting).zipWith (fun tab ws => { tab with sheet := ws }) done.sheets
  let report : PassReport :=
    { formulas := wb.calcState.formulas.size
      calculated := done.calculated
      circular := done.circular
      volatile := if wb.evaluatesVolatile then wb.calcState.volatile.size else 0
      deferred := waiting.size }
  (report, { wb with tabs })

/-- Evaluates every formula. -/
def recalculateAll (wb : Workbook) : PassReport × Workbook :=
  wb.recalculate wb.calcState.formulas.keys

/-- The cells with formulas, in order. -/
def formulaKeys (wb : Workbook) : List CellKey :=
  wb.sheets.zipIdx.flatMap fun (ws, i) => ws.formulaCells.map fun (row, col, _) => ⟨i, row, col⟩

/-- Reads every formula anew and evaluates it; nothing is set aside any longer from before. -/
def rebuild (wb : Workbook) : Workbook :=
  let tabs := wb.tabs.map fun tab => { tab with batch := { tab.batch with dirty := ∅ } }
  let wb := { wb with tabs, calcState := {} }
  (wb.formulaKeys.foldl register wb).recalculateAll.2

end Workbook

/-! ## 3. Batches -/

namespace Edit

open Workbook

/-- Evaluates some cells and everything downstream of them. -/
def recalculate (seeds : List CellKey) : Edit PassReport := modifyGet (·.recalculate seeds)

/-- Evaluates every formula. -/
def recalculateAll : Edit PassReport := modifyGet Workbook.recalculateAll

/-- Reads every formula anew and evaluates it. -/
def rebuild : Edit Unit := modify Workbook.rebuild

/-- Gives a sheet another batch. -/
def putBatch (i : Nat) (batch : Batch) : Edit Unit :=
  modify fun wb => { wb with tabs := wb.tabs.modify i fun tab => { tab with batch } }

/-- The batch of a sheet. -/
def getBatch (i : Nat) : Edit Batch := do
  checkSheet i
  return ((((← get).tabs[i]?).map Tab.batch).getD {})

/-- Opens the batch of a sheet. -/
def beginUpdate (i : Nat) : Edit Unit := do
  let batch ← getBatch i
  let ws ← getSheet i
  if batch.isOpen then throw (.batchInProgress ws.name)
  else putBatch i { batch with isOpen := true }

/-- Closes the batch of a sheet and evaluates what was set aside. Nothing happens if the batch is
    not open. -/
def endUpdate (i : Nat) : Edit PassReport := do
  let batch ← getBatch i
  if batch.isOpen then
    putBatch i {}
    recalculate batch.dirty.toList
  else return {}

/-- An operation inside a batch, which is closed whether or not the operation is refused. -/
def withBatch {α : Type} (i : Nat) (body : Edit α) : Edit α := fun wb =>
  match beginUpdate i wb with
  | .error e wb => .error e wb
  | .ok _ wb =>
    let closed (wb : Workbook) : Workbook :=
      match endUpdate i wb with
      | .ok _ wb => wb
      | .error _ wb => wb
    match body wb with
    | .ok a wb => .ok a (closed wb)
    | .error e wb => .error e (closed wb)

end Edit

end Gridcalc
