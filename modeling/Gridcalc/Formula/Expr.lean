import Gridcalc.Address.Basic
import Gridcalc.Value.Basic

/-!
# Formulas as trees

* `Operator` with its symbol and its binding strength;
* `Expr` is a formula without its equals sign; groups in parentheses have no node of their own;
* `Expr.references` and `Expr.functionNames` collect what a formula refers to and calls.
-/

namespace Gridcalc

/-! ## 1. Operators -/

/-- The operators between two operands. -/
inductive Operator where
  | add | subtract | multiply | divide
  | concat
  | equal | notEqual | less | lessEqual | greater | greaterEqual
  deriving DecidableEq, Repr, Inhabited

namespace Operator

/-- All operators. -/
def all : List Operator :=
  [.add, .subtract, .multiply, .divide, .concat, .equal, .notEqual, .less, .lessEqual, .greater,
    .greaterEqual]

/-- The written form of an operator. -/
def symbol : Operator → String
  | .add => "+"
  | .subtract => "-"
  | .multiply => "*"
  | .divide => "/"
  | .concat => "&"
  | .equal => "="
  | .notEqual => "<>"
  | .less => "<"
  | .lessEqual => "<="
  | .greater => ">"
  | .greaterEqual => ">="

/-- How strongly an operator binds its operands. -/
def strength : Operator → Nat
  | .equal | .notEqual | .less | .lessEqual | .greater | .greaterEqual => 1
  | .concat => 2
  | .add | .subtract => 3
  | .multiply | .divide => 4

/-- Comparisons bind the weakest. -/
def isComparison (op : Operator) : Bool := op.strength == 1

/-- Whether an order satisfies a comparison; anything but the first five is "not less". -/
def holds : Operator → Ordering → Bool
  | .equal, o => o == .eq
  | .notEqual, o => o != .eq
  | .less, o => o == .lt
  | .lessEqual, o => o != .gt
  | .greater, o => o == .gt
  | _, o => o != .lt

theorem mem_all (op : Operator) : op ∈ all := by cases op <;> decide

/-- An operator is known by its symbol. -/
theorem symbol_injective {a b : Operator} (h : a.symbol = b.symbol) : a = b := by
  cases a <;> cases b <;> first | rfl | (exact absurd h (by decide))

end Operator

/-! ## 2. Trees -/

/-- The tree of a formula. -/
inductive Expr where
  | number (x : Float)
  | text (s : String)
  | boolean (b : Bool)
  | error (e : ErrorValue)
  /-- A cell, on the sheet of the formula where no sheet is named. -/
  | cell (sheet : Option String) (address : CellRef)
  /-- A rectangle of cells. -/
  | range (sheet : Option String) (range : RangeRef)
  | binary (op : Operator) (left right : Expr)
  | call (name : String) (args : List Expr)
  deriving Repr, Inhabited

/-- What a formula refers to. -/
inductive Reference where
  | cell (sheet : Option String) (address : CellRef)
  | range (sheet : Option String) (range : RangeRef)
  deriving DecidableEq, Repr, Inhabited

namespace Reference

/-- The sheet that a reference names. -/
def sheet : Reference → Option String
  | .cell sheet _ => sheet
  | .range sheet _ => sheet

/-- The cells of a reference; a cell is a rectangle of one. -/
def area : Reference → RangeRef
  | .cell _ address => .single address
  | .range _ r => r

end Reference

namespace Expr

mutual

/-- The references of a formula from left to right. -/
def references : Expr → List Reference
  | .cell sheet address => [.cell sheet address]
  | .range sheet r => [.range sheet r]
  | .binary _ left right => references left ++ references right
  | .call _ args => referencesOfArgs args
  | _ => []

/-- The references of the arguments of a call. -/
def referencesOfArgs : List Expr → List Reference
  | [] => []
  | e :: es => references e ++ referencesOfArgs es

end

mutual

/-- The names of the functions that a formula calls, one entry for each call. -/
def functionNames : Expr → List String
  | .binary _ left right => functionNames left ++ functionNames right
  | .call name args => name :: functionNamesOfArgs args
  | _ => []

/-- The names of the functions that the arguments of a call call. -/
def functionNamesOfArgs : List Expr → List String
  | [] => []
  | e :: es => functionNames e ++ functionNamesOfArgs es

end

theorem referencesOfArgs_eq (args : List Expr) :
    referencesOfArgs args = args.flatMap references := by
  induction args with
  | nil => rfl
  | cons e es ih => simp [referencesOfArgs, ih]

theorem functionNamesOfArgs_eq (args : List Expr) :
    functionNamesOfArgs args = args.flatMap functionNames := by
  induction args with
  | nil => rfl
  | cons e es ih => simp [functionNamesOfArgs, ih]

end Expr

end Gridcalc
