import Gridcalc.Builtin.Arithmetic
import Gridcalc.Formula.Scan

/-!
# Counting and summarising functions

Counts, means, extremes and ranks, and the two functions that choose among them by a code and skip
cells: subtotals in between, hidden rows and errors.
-/

namespace Gridcalc.Builtin

/-! ## 1. Means, extremes and ranks -/

def average (args : List Arg) (_ : Context) : Outcome Value := do
  numberResult (← .orRefuse .divZero (average? (← numbersOf args)))

/-- The least number, or 0 if there is none. -/
def minimum (args : List Arg) (_ : Context) : Outcome Value := do
  numberResult ((least? (← numbersOf args)).getD 0)

/-- The greatest number, or 0 if there is none. -/
def maximum (args : List Arg) (_ : Context) : Outcome Value := do
  numberResult ((greatest? (← numbersOf args)).getD 0)

def median (args : List Arg) (_ : Context) : Outcome Value := do
  numberResult (← .orRefuse .num (median? (← numbersOf args)))

/-- The number at a place of a sorted list, counted from one and rounded up. -/
def ranked (sorted : List Float) (k : Float) : Outcome Value :=
  let k := ceilingOf k
  if k < 1 || Float.ofNat sorted.length < k then .refuse .num
  else
    match toCount k with
    | 0 => .error (.fault .noSuchRank)
    | n + 1 =>
      match sorted[n]? with
      | some x => numberResult x
      | none => .error (.fault .noSuchRank)

/-- The number that so many numbers of the list are not below, itself included. -/
def kthLargest (xs : List Float) (k : Float) : Outcome Value := ranked (sortNumbers xs).reverse k

/-- The number that so many numbers of the list are not above, itself included. -/
def kthSmallest (xs : List Float) (k : Float) : Outcome Value := ranked (sortNumbers xs) k

def large (args : List Arg) (_ : Context) : Outcome Value := do
  let xs ← numbersOf (args.take 1)
  kthLargest xs (← numberAt args 1)

def small (args : List Arg) (_ : Context) : Outcome Value := do
  let xs ← numbersOf (args.take 1)
  kthSmallest xs (← numberAt args 1)

/-! ## 2. Counts -/

/-- How many numbers an argument adds to a count: the numeric cells of a rectangle, or a value that
    reads as a number. -/
def numericCount : Arg → Nat
  | .range view => view.values.countP Value.isNumeric
  | .value .empty => 0
  | .value v => if v.toNumber.isOk then 1 else 0

def count (args : List Arg) (_ : Context) : Outcome Value :=
  countResult ((args.map numericCount).foldr (· + ·) 0)

/-- Everything but missing values counts, errors too. -/
def countAll (args : List Arg) (_ : Context) : Outcome Value :=
  countResult ((args.map fun arg => arg.values.countP fun v => !v.isEmpty).foldr (· + ·) 0)

def countBlank (args : List Arg) (_ : Context) : Outcome Value := do
  countResult ((← rangeAt args 0).values.countP Value.isBlank)

def countIf (args : List Arg) (_ : Context) : Outcome Value := do
  let view ← rangeAt args 0
  countResult (view.values.countP (Criterion.ofValue (scalarAt args 1)).admits)

def averageIf (args : List Arg) (_ : Context) : Outcome Value := do
  numberResult (← .orRefuse .divZero (average? (← conditionalNumbers args)))

/-! ## 3. Cells to skip -/

/-- Which cells a summary leaves out. -/
structure SkipRules where
  /-- Cells with a summary of their own. -/
  nested : Bool
  hidden : Bool
  errors : Bool
  deriving DecidableEq, Repr

/-- Whether a formula text calls one of the two summarising functions. -/
def isSummaryFormula (formula : String) : Bool :=
  let kinds := (tokenize formula).map Token.kind
  (kinds.zip kinds.tail).any fun
    | (.name s, .openParen) =>
      Text.sameIgnoringCase s "SUBTOTAL" || Text.sameIgnoringCase s "AGGREGATE"
    | _ => false

/-- Whether a cell of a sheet is left out. -/
def SkipRules.skips (rules : SkipRules) (ws : Worksheet) (row col : Nat) : Bool :=
  (rules.hidden && ws.isHidden row) ||
    (rules.nested && ((ws.formulaAt? row col).map isSummaryFormula).getD false) ||
    (rules.errors && (ws.valueAt row col).isError)

/-- The values that a summary looks at. -/
def SkipRules.remaining (rules : SkipRules) (view : RangeView) : List Value :=
  (view.cells.filter fun (r, _) => !rules.skips view.sheet r.row r.col).map (·.2)

/-- What a summary works on: the numbers, and how many values there are. -/
structure Gathered where
  numbers : List Float
  nonEmpty : Nat

/-- What an argument adds to a summary. -/
def gatherArg (rules : SkipRules) : Arg → Outcome Gathered
  | .range view => do
    let vs := rules.remaining view
    return ⟨← numbersOfCells vs, vs.countP fun v => !v.isEmpty⟩
  | .value .empty => .ok ⟨[], 0⟩
  | .value (.error e) => if rules.errors then .ok ⟨[], 0⟩ else .refuse e
  | .value v => do return ⟨[← .lift v.toNumber], 1⟩

/-- What all arguments add to a summary; the first error wins. -/
def gather (rules : SkipRules) : List Arg → Outcome Gathered
  | [] => .ok ⟨[], 0⟩
  | arg :: args => do
    let a ← gatherArg rules arg
    let b ← gather rules args
    return ⟨a.numbers ++ b.numbers, a.nonEmpty + b.nonEmpty⟩

/-! ## 4. Summaries by code -/

/-- The summary with a code. Those from 14 on need a number besides. -/
def summarise (code : Int) (g : Gathered) (k : Option Float) : Outcome Value :=
  let xs := g.numbers
  let figure (e : ErrorValue) (x : Option Float) : Outcome Value :=
    (Outcome.orRefuse e x).map .number
  match code with
  | 1 => figure .divZero (average? xs)
  | 2 => countResult xs.length
  | 3 => countResult g.nonEmpty
  | 4 => numberResult ((greatest? xs).getD 0)
  | 5 => numberResult ((least? xs).getD 0)
  | 6 => numberResult (if xs.isEmpty then 0 else product xs)
  | 7 => figure .divZero ((variance? true xs).map Float.sqrt)
  | 8 => figure .divZero ((variance? false xs).map Float.sqrt)
  | 9 => numberResult (total xs)
  | 10 => figure .divZero (variance? true xs)
  | 11 => figure .divZero (variance? false xs)
  | 12 => figure .num (median? xs)
  | 13 => figure .notAvailable (mode? xs)
  | 14 => kthLargest xs (k.getD 0)
  | 15 => kthSmallest xs (k.getD 0)
  | 16 => figure .num (percentile? xs (k.getD (-1)))
  | 17 => figure .num (quartile? xs (k.getD (-1)))
  | 18 => figure .num (percentileInside? xs (k.getD (-1)))
  | 19 => figure .num (quartileInside? xs (k.getD (-1)))
  | _ => .refuse .value

/-- The error among arguments that should be rectangles; a value error if none of the others is an
    error. -/
def errorAmong (args : List Arg) : ErrorValue :=
  (args.findSome? fun
    | .value v => v.error?
    | .range _ => none).getD .value

/-- Whether an argument is a rectangle. -/
def isRange : Arg → Bool
  | .range _ => true
  | .value _ => false

/-- A summary of rectangles that leaves out other summaries. The codes from 101 on leave out hidden
    rows too. -/
def subtotal (args : List Arg) (_ : Context) : Outcome Value := do
  let code := toWord (wholeOf (← numberAt args 0))
  let (code, hidden) ←
    if 1 ≤ code ∧ code ≤ 11 then pure (code, false)
    else if 101 ≤ code ∧ code ≤ 111 then pure (code - 100, true)
    else .refuse .value
  let refs := args.drop 1
  if refs.all isRange then
    summarise code (← gather ⟨true, hidden, false⟩ refs) none
  else .refuse (errorAmong refs)

/-- A summary with a choice of what to leave out. The codes from 14 on take their number as the
    fourth argument. -/
def aggregate (args : List Arg) (_ : Context) : Outcome Value := do
  let code := toWord (wholeOf (← numberAt args 0))
  let option := toWord (wholeOf (← numberAt args 1))
  if ¬(1 ≤ code ∧ code ≤ 19) ∨ ¬(0 ≤ option ∧ option ≤ 7) then .refuse .value
  else
    let rules : SkipRules := ⟨option ≤ 3, option % 2 = 1, option / 2 % 2 = 1⟩
    if code < 14 then
      summarise code (← gather rules (args.drop 2)) none
    else if args.length = 4 then
      let k ← numberAt args 3
      summarise code (← gather rules ((args.drop 2).take 1)) (some k)
    else .refuse .value

end Gridcalc.Builtin
