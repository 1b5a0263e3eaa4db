import Gridcalc.Builtin.Registry
import Gridcalc.Value.Order

/-!
# Evaluating formulas

What a tree comes to at a place of a workbook. What goes wrong is an error value; only a fault of a
function is none.

* `evaluate` evaluates a tree to a single value, `evaluateArgs` the arguments of a call by the kinds
  that the function takes;
* `evaluateFormula` is what a cell shows for a formula: a bare range is summed, and no value shows
  as zero.
-/

namespace Gridcalc

/-! ## 1. Operators -/

/-- What an operator of arithmetic makes of two numbers. -/
def calculate (op : Operator) (a b : Float) : Except ErrorValue Value :=
  let finite (x : Float) : Except ErrorValue Value :=
    if x.isFinite then .ok (.number x) else .error .num
  match op with
  | .add => finite (a + b)
  | .subtract => finite (a - b)
  | .multiply => finite (a * b)
  | _ => if b == 0 then .error .divZero else finite (a / b)

/-- What an operator makes of two values that are no errors. -/
def combine (op : Operator) (a b : Value) : Except ErrorValue Value :=
  if op.isComparison then .ok (.boolean (op.holds (a.compare b)))
  else if op = .concat then do
    let s ← a.toText
    let t ← b.toText
    return .text (s ++ t)
  else do
    let x ← a.toNumber
    let y ← b.toNumber
    calculate op x y

/-- The value of a conversion. -/
def valueOr : Except ErrorValue Value → Value
  | .ok v => v
  | .error e => .error e

/-! ## 2. Trees -/

/-- A rectangle where a single value is wanted: it has none. -/
def rangeAsScalar (ctx : Context) (sheet : Option String) (r : RangeRef) : Value :=
  match ctx.view sheet r with
  | .ok _ => .error .value
  | .error e => .error e

/-- A rectangle where a single value is wanted by a function: one cell has its value. -/
def rangeAsArgument (ctx : Context) (sheet : Option String) (r : RangeRef) : Value :=
  match ctx.view sheet r with
  | .ok view => view.single?.getD (.error .value)
  | .error e => .error e

/-- A reference as an unread rectangle, or as the error of one that does not exist. -/
def rangeArg (ctx : Context) (sheet : Option String) (r : RangeRef) : Arg :=
  match ctx.view sheet r with
  | .ok view => .range view
  | .error e => .value (.error e)

/-- The argument that a tree with a value is, by the kind that the function takes: references are
    not read where rectangles are taken. -/
def argOf (ctx : Context) (kind : ArgKind) (e : Expr) (v : Value) : Arg :=
  match kind, e with
  | .scalar, .range sheet r => .value (rangeAsArgument ctx sheet r)
  | .scalar, _ => .value v
  | _, .range sheet r => rangeArg ctx sheet r
  | _, .cell sheet r => rangeArg ctx sheet (.single r)
  | _, _ => .value v

mutual

/-- The single value of a tree. The left operand of an operator comes first, and an error in it is
    the result. -/
def evaluate (ctx : Context) : Expr → Except Fault Value
  | .number x => .ok (.number x)
  | .text s => .ok (.text s)
  | .boolean b => .ok (.boolean b)
  | .error e => .ok (.error e)
  | .cell sheet r => .ok (ctx.cellValue sheet r)
  | .range sheet r => .ok (rangeAsScalar ctx sheet r)
  | .binary op left right => do
    let a ← evaluate (ctx.branch 0) left
    match a with
    | .error e => return .error e
    | a =>
      let b ← evaluate (ctx.branch 1) right
      match b with
      | .error e => return .error e
      | b => return valueOr (combine op a b)
  | .call name args =>
    match findBuiltin? name with
    | none => .ok (.error .name)
    | some f =>
      if f.accepts args.length then do
        let values ← evaluateArgs ctx f 0 args
        (f.run values ctx).settle
      else .ok (.error .value)

/-- The arguments of a call from the `i`th on. -/
def evaluateArgs (ctx : Context) (f : Builtin) (i : Nat) : List Expr → Except Fault (List Arg)
  | [] => .ok []
  | e :: es => do
    let v ← evaluate (ctx.branch i) e
    let args ← evaluateArgs ctx f (i + 1) es
    return argOf ctx (f.kindAt i) e v :: args

end

/-! ## 3. Whole formulas -/

/-- The sum of a rectangle: other kinds than numbers count zero, and the first error is the
    result. -/
def sumOfCells (sum : Float) : List Value → Value
  | [] => .number sum
  | .error e :: _ => .error e
  | v :: vs => sumOfCells (sum + v.number?.getD 0) vs

/-- No value shows as zero. -/
def shownResult : Value → Value
  | .empty => .number 0
  | v => v

/-- What a cell shows for a formula. A formula of which nothing could be read is a value error. -/
def evaluateFormula (ctx : Context) (root : Option Expr) : Except Fault Value :=
  match root with
  | none => .ok (.error .value)
  | some (.range sheet r) =>
    match ctx.view sheet r with
    | .ok view => .ok (shownResult (sumOfCells 0 view.values))
    | .error e => .ok (.error e)
  | some e => (evaluate ctx e).map shownResult

/-- What a cell shows for a formula, a fault counting as a number error. -/
def formulaValue (ctx : Context) (root : Option Expr) : Value :=
  match evaluateFormula ctx root with
  | .ok v => v
  | .error _ => .error .num

end Gridcalc
