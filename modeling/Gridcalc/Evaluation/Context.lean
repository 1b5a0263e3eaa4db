import Gridcalc.Sheet.View

/-!
# What evaluation works with

* `Outcome` is what a function comes to: a result, an error value, or a fault of the function
  itself;
* `Ambient` supplies the time and the random draws, so that evaluation is a function;
* `Context` is the place of a formula in its workbook; `Context.cellValue` and `Context.view` look
  up what it refers to;
* `Arg` is an evaluated argument, a value or a rectangle that is not read yet.
-/

namespace Gridcalc

/-! ## 1. Outcomes -/

/-- Where a function does not say what its result is. -/
inductive Fault where
  /-- A rank that is not a number. -/
  | noSuchRank
  /-- A random draw between bounds with no whole number between them. -/
  | emptyDraw
  deriving DecidableEq, Repr

/-- Why a function gives no value. -/
inductive Interrupt where
  | error (e : ErrorValue)
  | fault (f : Fault)
  deriving DecidableEq, Repr

/-- What a function comes to. -/
abbrev Outcome := Except Interrupt

namespace Outcome

/-- A refusal with an error value. -/
def refuse {α : Type} (e : ErrorValue) : Outcome α := .error (.error e)

/-- A conversion as part of a function. -/
def lift {α : Type} : Except ErrorValue α → Outcome α
  | .ok a => .ok a
  | .error e => refuse e

/-- A figure as part of a function, where it may be missing. -/
def orRefuse {α : Type} (e : ErrorValue) : Option α → Outcome α
  | some a => .ok a
  | none => refuse e

@[simp] theorem lift_ok {α : Type} (a : α) : lift (.ok a) = .ok a := rfl

@[simp] theorem lift_error {α : Type} (e : ErrorValue) :
    (lift (.error e) : Outcome α) = .error (.error e) := rfl

/-- An error value is a value. -/
def settle : Outcome Value → Except Fault Value
  | .ok v => .ok v
  | .error (.error e) => .ok (.error e)
  | .error (.fault f) => .error f

end Outcome

/-! ## 2. The place of a formula -/

/-- What a formula can learn from outside its workbook: the time, and for each call that draws at
    random a number from zero up to but not including one. A call is known by its path: the number
    of each operand or argument on the way to it, and the cell. -/
structure Ambient where
  now : Moment
  draw : List Nat → Float

/-- The place of a formula. -/
structure Context where
  sheets : List Worksheet
  sheet : Nat
  row : Nat
  col : Nat
  ambient : Ambient
  path : List Nat := []

/-- The place of the first sheet with a name, ASCII case aside. -/
def sheetNamed? (sheets : List Worksheet) (name : String) : Option Nat :=
  sheets.findIdx? fun ws => Text.sameIgnoringCase ws.name name

/-- The sheet that a reference means in a formula on sheet `home`. -/
def sheetOfReference? (sheets : List Worksheet) (home : Nat) : Option String → Option Nat
  | none => if home < sheets.length then some home else none
  | some name => sheetNamed? sheets name

namespace Context

/-- The context of an operand or argument. -/
def branch (ctx : Context) (i : Nat) : Context := { ctx with path := i :: ctx.path }

/-- The random number for the call at this place. -/
def draw (ctx : Context) : Float := ctx.ambient.draw (ctx.path ++ [ctx.col, ctx.row, ctx.sheet])

/-- The sheet that a reference means. -/
def sheetOf? (ctx : Context) (name : Option String) : Option Worksheet :=
  (sheetOfReference? ctx.sheets ctx.sheet name).bind fun i => ctx.sheets[i]?

/-- The value of a cell; a reference error where there is no such sheet or cell. -/
def cellValue (ctx : Context) (sheet : Option String) (r : CellRef) : Value :=
  match ctx.sheetOf? sheet with
  | none => .error .ref
  | some ws => if ws.inBounds r.row r.col then ws.valueAt r.row r.col else .error .ref

/-- The view of a rectangle, all of which has to lie in its sheet. -/
def view (ctx : Context) (sheet : Option String) (r : RangeRef) : Except ErrorValue RangeView :=
  match ctx.sheetOf? sheet with
  | none => .error .ref
  | some ws => if ws.containsRange r then .ok ⟨ws, r⟩ else .error .ref

end Context

/-! ## 3. Arguments -/

/-- An evaluated argument. -/
inductive Arg where
  | value (v : Value)
  | range (view : RangeView)

namespace Arg

/-- The argument as a single value. A rectangle of more than one cell has none. -/
def scalar : Arg → Value
  | .value v => v
  | .range view => view.single?.getD (.error .value)

/-- The values that an argument holds, a rectangle row by row. -/
def values : Arg → List Value
  | .value v => [v]
  | .range view => view.values

end Arg

end Gridcalc
