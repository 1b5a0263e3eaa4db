import Gridcalc.Builtin.Argument
import Gridcalc.Number.Binary

/-!
# Conditions

Choosing between arguments, joining truth values, and asking what kind a value is.
-/

namespace Gridcalc.Builtin

/-! ## 1. Choices -/

/-- The second argument or the third; false where the third is left out. -/
def choose (args : List Arg) (_ : Context) : Outcome Value := do
  let holds ← .lift (scalarAt args 0).toBoolean
  if holds then return scalarAt args 1
  else if 2 < args.length then return scalarAt args 2
  else booleanResult false

/-- The first argument, or the second in place of an error. -/
def insteadOfError (args : List Arg) (_ : Context) : Outcome Value :=
  match scalarAt args 0 with
  | .error _ => .ok (scalarAt args 1)
  | v => .ok v

/-- The argument with a number, counted from one behind the number itself. -/
def chooseByNumber (args : List Arg) (_ : Context) : Outcome Value := do
  let n := wholeOf (← numberAt args 0)
  if n < 1 || Float.ofNat args.length ≤ n then .refuse .value
  else return scalarAt args (toCount n)

/-! ## 2. Truth values -/

/-- The truth value that a cell of a rectangle holds; texts, dates and missing values hold none. -/
def heldTruth? : Value → Option Bool
  | .boolean b => some b
  | .number x => some (x != 0)
  | _ => none

/-- The truth values that an argument adds. -/
def truthsOfArg : Arg → Outcome (List Bool)
  | .range view =>
    match firstError? view.values with
    | some e => .refuse e
    | none => .ok (view.values.filterMap heldTruth?)
  | .value .empty => .ok []
  | .value v => .lift (v.toBoolean.map fun b => [b])

/-- The truth values of all arguments; the first error wins. -/
def truthsOfArgs : List Arg → Outcome (List Bool)
  | [] => .ok []
  | arg :: args => do
    let bs ← truthsOfArg arg
    let cs ← truthsOfArgs args
    return bs ++ cs

/-- The truth values of all arguments, of which there has to be one. -/
def truthsOf (args : List Arg) : Outcome (List Bool) := do
  let bs ← truthsOfArgs args
  if bs.isEmpty then .refuse .value else return bs

def conjunction (args : List Arg) (_ : Context) : Outcome Value := do
  booleanResult ((← truthsOf args).all id)

def disjunction (args : List Arg) (_ : Context) : Outcome Value := do
  booleanResult ((← truthsOf args).any id)

def negation (args : List Arg) (_ : Context) : Outcome Value := do
  booleanResult !(← .lift (scalarAt args 0).toBoolean)

/-! ## 3. Kinds -/

/-- Whether the argument is of a kind. -/
def isOfKind (kind : Value → Bool) (args : List Arg) (_ : Context) : Outcome Value :=
  booleanResult (kind (scalarAt args 0))

def isNotAvailable (v : Value) : Bool := v.error? == some .notAvailable

end Gridcalc.Builtin
