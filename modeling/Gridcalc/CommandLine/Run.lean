import Gridcalc.CommandLine.Arguments
import Gridcalc.CommandLine.Assignment
import Gridcalc.CommandLine.Outline
import Gridcalc.Formula.CallHint
import Gridcalc.Formula.Notation

/-!
# Running a command

What the program prints for a command line, and the code it exits with.

* `Output` is what a run leaves behind;
* `evalCommand`, `tokensCommand`, `parseCommand`, `hintCommand` and `functionsCommand` answer the
  five verbs;
* `run` reads a command line and answers it.
-/

namespace Gridcalc

/-! ## 1. Outputs -/

/-- What a run prints, and its exit code. -/
structure Output where
  exitCode : Nat := 0
  stdout : String := ""
  stderr : String := ""
  deriving DecidableEq, Repr

namespace Output

/-- Some texts, each on a line of its own. -/
def linesText (lines : List String) : String := String.join (lines.map (· ++ "\n"))

/-- A run that prints some lines. -/
def ofLines (lines : List String) : Output := { stdout := linesText lines }

/-- A run that fails. -/
def ofFault (fault : CommandFault) : Output := { exitCode := 1, stderr := fault.report }

end Output

/-! ## 2. The verbs -/

/-- The cells of a sheet that are not blank, each with its formula and its value. -/
def cellLines (ws : Worksheet) : List String :=
  (ws.cells.filter fun (_, _, cell) => !cell.isBlank).map fun (row, col, cell) =>
    let formula := (cell.formula.map (· ++ "\t")).getD ""
    ws.name ++ "!" ++ (CellRef.ofIndices row col).text ++ "\t" ++ formula ++ cell.value.display

/-- The value of a formula at a place of the first sheet, after some assignments. -/
def evalLines (formula : String) (assignments : List String) (place : String) (dump : Bool) :
    CommandStep (List String) := do
  fill assignments
  let r ← orFail (Edit.lift (CellRef.read place)) (.badAddress place)
  let formula := if formula.toList.head? = some '=' then formula else "=" ++ formula
  let v ← orFail (Edit.evaluateAt 0 r.row r.col formula) .notEvaluated
  let sheets := (← get).sheets
  return v.display :: (if dump then sheets.flatMap cellLines else [])

def evalCommand (ambient : Ambient) (formula : String) (assignments : List String)
    (place : String) (dump : Bool) : Output :=
  match evalLines formula assignments place dump (Workbook.create {} ambient) with
  | .ok lines _ => .ofLines lines
  | .error fault _ => .ofFault fault

/-- A text moved to the right of a field. -/
def padLeft (width : Nat) (s : String) : String := String.ofList (s.toList.leftpad width ' ')

/-- A text at the left of a field. -/
def padRight (width : Nat) (s : String) : String := String.ofList (s.toList.rightpad width ' ')

/-- A token with its span in bytes. -/
def tokenLine (t : Token) : String :=
  padLeft 3 (toString t.start) ++ ".." ++ padRight 3 (toString t.stop) ++ " " ++
    t.kind.outline.inline ++ "\t" ++ String.ofList t.source

def tokensCommand (formula : String) : Output :=
  .ofLines (((tokenize formula).takeWhile fun t => t.kind ≠ .finish).map tokenLine)

/-- The text and the outline of a tree. -/
def treeLines : Option Expr → List String
  | some root => [root.render, root.outline.indented]
  | none => ["(no expression)"]

/-- The tree of a formula, and what is wrong with its text. -/
def parseCommand (formula : String) : Output :=
  let parsed := parseFormula formula
  let diagnostics := Output.linesText (parsed.diagnostics.map fun d => "error: " ++ d.message)
  let printed := Output.ofLines (treeLines parsed.root)
  if parsed.isOk then { printed with stderr := diagnostics }
  else
    let fault := CommandFault.badFormula (max 1 parsed.diagnostics.length)
    { printed with exitCode := 1, stderr := diagnostics ++ fault.report }

/-- The most arguments of a function, with a word for "no limit". -/
def maxArgsText (unlimited : String) (f : Builtin) : String :=
  (f.maxArgs.map toString).getD unlimited

/-- What is said about the function of a call. -/
def signatureText : Option Builtin → String
  | none => "unknown function"
  | some f =>
    let most := maxArgsText "any" f
    let volatile := if f.isVolatile then ", volatile" else ""
    s!"takes {f.minArgs}..{most} arguments{volatile}"

/-- The function call around a caret; the end of the text if there is none. -/
def hintCommand (formula : String) (caret : Option Nat) : Output :=
  match functionHint? formula (caret.getD formula.length) with
  | none => .ofLines ["(not inside a function call)"]
  | some (hint, f) =>
    .ofLines
      [hint.name ++ " argument " ++ toString (hint.argument + 1) ++ " (" ++ signatureText f ++ ")"]

/-- The functions with the numbers of arguments they take. -/
def functionsCommand : Output :=
  .ofLines ((builtinNames.filterMap findBuiltin?).map fun f =>
    f.name ++ "\t" ++ toString f.minArgs ++ ".." ++ maxArgsText "*" f)

/-! ## 3. All verbs -/

def Invocation.answer (ambient : Ambient) : Invocation → Output
  | .eval formula assignments place dump => evalCommand ambient formula assignments place dump
  | .tokens formula => tokensCommand formula
  | .parse formula => parseCommand formula
  | .hint formula caret => hintCommand formula caret
  | .functions => functionsCommand

/-- Answers a command line. -/
def run (ambient : Ambient) (words : List String) : Output :=
  match Invocation.read? words with
  | some invocation => invocation.answer ambient
  | none => { exitCode := 2, stderr := "error: unexpected arguments\n" }

end Gridcalc
