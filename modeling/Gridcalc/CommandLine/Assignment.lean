import Gridcalc.Text.Blank
import Gridcalc.Workbook.Sheets
import Gridcalc.Workbook.Cells

/-!
# Assignments

A workbook filled from texts such as `A1=5` or `'Tax Rates'!C3=0.2`. Sheets are added when they are
first named.

* `Assignment.read` splits a text into a sheet, an address and an input;
* `fill` carries assignments out in a workbook, all in one batch;
* `CommandFault` is why a command fails, with `CommandFault.report` for its wording.
-/

namespace Gridcalc

/-! ## 1. Faults -/

/-- Why a command fails. -/
inductive CommandFault where
  | noAssignment (source : String)
  | emptySheetName (source : String)
  | sheetNotAdded (name : String) (cause : Failure)
  | badAddress (address : String) (cause : Failure)
  | cellNotSet (source : String) (cause : Failure)
  | batchNotOpened (cause : Failure)
  | notRecalculated (cause : Failure)
  | notEvaluated (cause : Failure)
  | badFormula (diagnostics : Nat)
  deriving DecidableEq, Repr

namespace CommandFault

def message : CommandFault → String
  | .noAssignment s => s!"expected CELL=INPUT, got '{s}'"
  | .emptySheetName s => s!"empty sheet name in '{s}'"
  | .sheetNotAdded name _ => s!"Failed to add sheet '{name}'"
  | .badAddress address _ => s!"Invalid cell '{address}'"
  | .cellNotSet s _ => s!"Failed to set '{s}'"
  | .batchNotOpened _ => "Failed to start update batch"
  | .notRecalculated _ => "Failed to recalculate"
  | .notEvaluated _ => "Failed to evaluate formula"
  | .badFormula n => s!"formula has {n} parse error(s)"

/-- The failure behind a fault. -/
def cause? : CommandFault → Option Failure
  | .noAssignment _ | .emptySheetName _ | .badFormula _ => none
  | .sheetNotAdded _ e | .badAddress _ e | .cellNotSet _ e => some e
  | .batchNotOpened e | .notRecalculated e | .notEvaluated e => some e

/-- A text with every line set in. -/
def setIn (s : String) : String :=
  "    " ++ String.ofList (s.toList.flatMap fun c => if c = '\n' then "\n    ".toList else [c])

/-- What is printed about a fault: its wording, and the failure behind it. -/
def report (fault : CommandFault) : String :=
  let cause := match fault.cause? with
    | some e => "\n\nCaused by:\n" ++ setIn e.message
    | none => ""
  "Error: " ++ fault.message ++ cause ++ "\n"

end CommandFault

/-! ## 2. Reading -/

/-- A cell with the input it is set to. -/
structure Assignment where
  /-- The name of the sheet; the first sheet if there is none. -/
  sheet : Option String
  address : String
  input : String
  deriving DecidableEq, Repr

/-- A text without the apostrophes at its ends. -/
def dropApostrophes (cs : List Char) : List Char :=
  ((cs.dropWhile (· = '\'')).reverse.dropWhile (· = '\'')).reverse

/-- Reads an assignment: the input stands behind the first equals sign, and the name of the sheet in
    front of the last exclamation mark before it. -/
def Assignment.read (source : String) : Except CommandFault Assignment :=
  let cs := source.toList
  let target := cs.takeWhile (· ≠ '=')
  match cs.drop target.length with
  | [] => .error (.noAssignment source)
  | _ :: input =>
    let target := Text.trim target
    let address := (target.reverse.takeWhile (· ≠ '!')).reverse
    if address.length = target.length then
      .ok { sheet := none, address := String.ofList address, input := String.ofList input }
    else
      let name := dropApostrophes (target.take (target.length - address.length - 1))
      if name.isEmpty then .error (.emptySheetName source)
      else .ok
        { sheet := some (String.ofList name)
          address := String.ofList address
          input := String.ofList input }

/-! ## 3. Filling a workbook -/

/-- A step of a command on a workbook. -/
abbrev CommandStep := EStateM CommandFault Workbook

/-- An operation on the workbook; where it is refused, the command fails. -/
def orFail {α : Type} (op : Edit α) (fault : Failure → CommandFault) : CommandStep α :=
  EStateM.adaptExcept fault op

/-- The sheet with a name, which is added if there is none. -/
def sheetOf : Option String → CommandStep Nat
  | none => return 0
  | some name => do
    match (← get).sheetIndex? name with
    | some i => return i
    | none => orFail (Edit.addSheet name) (.sheetNotAdded name)

/-- Carries out one assignment. -/
def assign (source : String) : CommandStep Unit := do
  let a ← (match Assignment.read source with
    | .ok a => pure a
    | .error fault => throw fault)
  let sheet ← sheetOf a.sheet
  let r ← orFail (Edit.lift (CellRef.read a.address)) (.badAddress a.address)
  orFail (Edit.setInput sheet r.row r.col a.input) (.cellNotSet source)

/-- Carries out assignments, and evaluates the formulas of the first sheet at the end only. -/
def fill (sources : List String) : CommandStep Unit := do
  orFail (Edit.beginUpdate 0) .batchNotOpened
  sources.forM assign
  let _ ← orFail (Edit.endUpdate 0) .notRecalculated

end Gridcalc
