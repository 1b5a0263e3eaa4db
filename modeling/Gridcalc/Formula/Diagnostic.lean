import Gridcalc.Formula.Expr
import Gridcalc.Formula.Token

/-!
# What is wrong with a formula text

* `Diagnostic` names a token where reading went wrong, and why;
* `ParsedFormula` is the outcome of reading: the best tree there is, and the diagnostics;
* `FormulaFailure` is the refusal of a text that has to be free of them.
-/

namespace Gridcalc

/-- Why a token is out of place. -/
inductive ParseFault where
  | noEqualsSign
  | trailing
  | tooDeep
  | tooManyOperators
  | colonAfterNoCell
  | noCellAfterColon
  | cornersOnTwoSheets
  | unclosedGroup
  | unknownName
  | unarySign
  | noOperand
  | noSeparator
  deriving DecidableEq, Repr, Inhabited

/-- The wording of a fault. -/
def ParseFault.message : ParseFault → String
  | .noEqualsSign => "formulas must start with '='"
  | .trailing => "expected end of formula"
  | .tooDeep => "formula nesting too deep"
  | .tooManyOperators => "formula has too many operators"
  | .colonAfterNoCell => "':' must follow a cell reference"
  | .noCellAfterColon => "expected a cell reference after ':'"
  | .cornersOnTwoSheets => "range corners must be on the same sheet"
  | .unclosedGroup => "expected ')'"
  | .unknownName => "unknown name"
  | .unarySign => "unary operators are not supported, write 0-x"
  | .noOperand => "expected an operand"
  | .noSeparator => "expected ',' or ')'"

/-- A token that is out of place: what it is, the byte it starts at, and why. -/
structure Diagnostic where
  token : TokenKind
  offset : Nat
  fault : ParseFault
  deriving DecidableEq, Repr, Inhabited

/-- The wording of a diagnostic. -/
def Diagnostic.message (d : Diagnostic) : String :=
  s!"Unexpected token {d.token.describe} at {d.offset}: {d.fault.message}"

/-- Why a formula or a reference is refused. -/
inductive FormulaFailure where
  | diagnosed (first : Diagnostic)
  | nothingRead
  | invalidReference (text : String)
  deriving DecidableEq, Repr

/-- The wording of a refusal. -/
def FormulaFailure.message : FormulaFailure → String
  | .diagnosed d => s!"Parse error: {d.message}"
  | .nothingRead => "Parse error: Unexpected token end of input"
  | .invalidReference s => s!"Invalid reference: {s}"

/-- The outcome of reading a formula. -/
structure ParsedFormula where
  /-- The best tree there is; none if nothing of use was found. -/
  root : Option Expr := none
  diagnostics : List Diagnostic := []
  deriving Repr, Inhabited

namespace ParsedFormula

/-- Whether the formula was read without a diagnostic. -/
def isOk (p : ParsedFormula) : Bool := p.diagnostics.isEmpty && p.root.isSome

/-- The tree of a formula that has to be free of diagnostics. -/
def strict (p : ParsedFormula) : Except FormulaFailure Expr :=
  match p.diagnostics, p.root with
  | d :: _, _ => .error (.diagnosed d)
  | [], some root => .ok root
  | [], none => .error .nothingRead

/-- Exactly the formulas without diagnostics pass the strict reading. -/
theorem strict_eq_ok_iff {p : ParsedFormula} {e : Expr} :
    p.strict = .ok e ↔ p.diagnostics = [] ∧ p.root = some e := by
  obtain ⟨root, ds⟩ := p
  cases ds <;> cases root <;> simp [strict]

end ParsedFormula

end Gridcalc
