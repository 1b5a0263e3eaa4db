import Gridcalc.Evaluation.Context

/-!
# Arguments of functions

How the functions read their arguments by position. An argument that was left out reads as no value.

* `scalarAt`, `numberAt`, `textAt`, `rangeAt` read one argument; `numberAtOr`, `booleanAtOr` have a
  value for one that is left out or blank;
* `numbersOf` collects the numbers of all arguments.
-/

namespace Gridcalc.Builtin

/-! ## 1. One argument -/

def scalarAt (args : List Arg) (i : Nat) : Value := (args[i]?.map Arg.scalar).getD .empty

def numberAt (args : List Arg) (i : Nat) : Outcome Float := .lift (scalarAt args i).toNumber

def textAt (args : List Arg) (i : Nat) : Outcome (List Char) :=
  .lift ((scalarAt args i).toText.map String.toList)

/-- A number, or `default` where there is no value. -/
def numberAtOr (args : List Arg) (i : Nat) (default : Float) : Outcome Float :=
  match scalarAt args i with
  | .empty => .ok default
  | v => .lift v.toNumber

/-- A truth value, or `default` where there is no value. -/
def booleanAtOr (args : List Arg) (i : Nat) (default : Bool) : Outcome Bool :=
  match scalarAt args i with
  | .empty => .ok default
  | v => .lift v.toBoolean

/-- A rectangle; an error value stays what it is, and anything else is a value error. -/
def rangeAt (args : List Arg) (i : Nat) : Outcome RangeView :=
  match args[i]? with
  | some (.range view) => .ok view
  | some (.value (.error e)) => .refuse e
  | _ => .refuse .value

/-- The place counted from zero of a place counted from one. Place zero, which only a non-number
    comes to, lies past the end of everything. -/
def placeBefore (n : Nat) : Nat := if n = 0 then twoTo 64 - 1 else n - 1

/-- A count of things, which cannot be negative. -/
def countAt (args : List Arg) (i : Nat) (default : Float) : Outcome Nat := do
  let x := wholeOf (← numberAtOr args i default)
  if x < 0 then .refuse .value else return toCount x

/-- A place counted from one, given counted from zero. -/
def placeAt (args : List Arg) (i : Nat) (default : Float) : Outcome Nat := do
  let x := wholeOf (← numberAtOr args i default)
  if x < 1 then .refuse .value else return placeBefore (toCount x)

/-! ## 2. All arguments -/

/-- The first error among some values. -/
def firstError? (vs : List Value) : Option ErrorValue := vs.findSome? Value.error?

/-- The numbers among the values of a rectangle; other kinds do not count, but an error does. -/
def numbersOfCells (vs : List Value) : Outcome (List Float) :=
  match firstError? vs with
  | some e => .refuse e
  | none => .ok (vs.filterMap Value.number?)

/-- The numbers that an argument adds: those of a rectangle, or the value itself converted. -/
def numbersOfArg : Arg → Outcome (List Float)
  | .range view => numbersOfCells view.values
  | .value .empty => .ok []
  | .value v => .lift (v.toNumber.map fun x => [x])

/-- The numbers of all arguments; the first error wins. -/
def numbersOf : List Arg → Outcome (List Float)
  | [] => .ok []
  | arg :: args => do
    let xs ← numbersOfArg arg
    let ys ← numbersOf args
    return xs ++ ys

/-! ## 3. Results -/

def numberResult (x : Float) : Outcome Value := .ok (.number x)

def countResult (n : Nat) : Outcome Value := .ok (.number (Float.ofNat n))

def textResult (cs : List Char) : Outcome Value := .ok (.text (String.ofList cs))

def booleanResult (b : Bool) : Outcome Value := .ok (.boolean b)

end Gridcalc.Builtin
