import Gridcalc.Calendar.Date
import Gridcalc.Text.Case

/-!
# Cell values

What a cell can show. Error values are values like any other: they travel through formulas.

* `ErrorValue` with `ErrorValue.literal` and `ErrorValue.ofLiteral?`, which are inverse to each
  other up to case;
* `Value` with its kinds (`isEmpty`, `isError`, `isNumeric`, `isText`, `isBlank`).
-/

namespace Gridcalc

/-! ## 1. Error values -/

/-- The errors a formula can come to. -/
inductive ErrorValue where
  /-- An operand or argument of the wrong kind. -/
  | value
  /-- A reference to a place that does not exist. -/
  | ref
  /-- A division by zero. -/
  | divZero
  /-- A name that is not known. -/
  | name
  /-- A cell that depends on itself. -/
  | circular
  /-- A value that is not available. -/
  | notAvailable
  /-- A number outside what a function accepts or can give. -/
  | num
  deriving DecidableEq, Repr, Inhabited

namespace ErrorValue

/-- The written form of an error. -/
def literal : ErrorValue → String
  | .value => "#VALUE!"
  | .ref => "#REF!"
  | .divZero => "#DIV/0!"
  | .name => "#NAME?"
  | .circular => "#CIRCULAR!"
  | .notAvailable => "#N/A"
  | .num => "#NUM!"

/-- All errors, in the order in which they compare. -/
def all : List ErrorValue := [.value, .ref, .divZero, .name, .circular, .notAvailable, .num]

/-- The place of an error in that order. -/
def rank : ErrorValue → Nat
  | .value => 0
  | .ref => 1
  | .divZero => 2
  | .name => 3
  | .circular => 4
  | .notAvailable => 5
  | .num => 6

/-- The error with a given written form, ASCII case aside. -/
def ofLiteral? (s : String) : Option ErrorValue :=
  all.find? fun e => e.literal == Text.asciiCapitals s

theorem mem_all (e : ErrorValue) : e ∈ all := by cases e <;> decide

/-- Different errors have different ranks. -/
theorem rank_injective {a b : ErrorValue} (h : a.rank = b.rank) : a = b := by
  cases a <;> cases b <;> first | rfl | (exact absurd h (by decide))

/-- An error is read back from its written form. -/
theorem ofLiteral?_literal (e : ErrorValue) : ofLiteral? e.literal = some e := by
  cases e <;> decide +kernel

end ErrorValue

/-! ## 2. Values -/

/-- The value of a cell. -/
inductive Value where
  | number (x : Float)
  | text (s : String)
  | boolean (b : Bool)
  | date (t : Moment)
  | error (e : ErrorValue)
  | empty
  deriving DecidableEq, Repr, Inhabited

namespace Value

def isEmpty : Value → Bool
  | .empty => true
  | _ => false

def isError : Value → Bool
  | .error _ => true
  | _ => false

/-- Numbers and dates are numeric. -/
def isNumeric : Value → Bool
  | .number _ | .date _ => true
  | _ => false

def isText : Value → Bool
  | .text _ => true
  | _ => false

/-- Nothing to see: no value, or a text without characters. -/
def isBlank : Value → Bool
  | .empty => true
  | .text s => s.isEmpty
  | _ => false

/-- The error that a value is, if it is one. -/
def error? : Value → Option ErrorValue
  | .error e => some e
  | _ => none

/-- The name of the kind of a value. -/
def kindName : Value → String
  | .number _ => "number"
  | .text _ => "text"
  | .boolean _ => "boolean"
  | .date _ => "date"
  | .error _ => "error"
  | .empty => "empty"

theorem isError_iff {v : Value} : v.isError = true ↔ ∃ e, v = .error e := by
  cases v <;> simp [isError]

theorem error?_eq_some_iff {v : Value} {e : ErrorValue} : v.error? = some e ↔ v = .error e := by
  cases v <;> simp [error?]

end Value

end Gridcalc
