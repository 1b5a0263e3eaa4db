import Gridcalc.Calendar.Layout
import Gridcalc.Value.Basic
import Gridcalc.Value.NumberText

/-!
# Reading, showing and converting values

* `Value.ofInput` reads what a user types into a cell, `Value.display` shows a value;
* `Value.toNumber`, `Value.toBoolean`, `Value.toText` convert an operand to the kind an operation
  works on, or give the error that the operation comes to;
* `Value.number?` is the number a value holds without any reading of text.
-/

namespace Gridcalc

namespace Value

/-! ## 1. Typing and showing -/

/-- What a user's input stands for: a number, a truth value or an error where it reads as one, no
    value where it is blank, and otherwise the text itself, blanks included. -/
def ofInput (input : String) : Value :=
  let trimmed := Text.trim input.toList
  let word := String.ofList trimmed
  if trimmed.isEmpty then .empty
  else match readNumber? trimmed with
    | some x => .number x
    | none =>
      if Text.sameIgnoringCase word "TRUE" then .boolean true
      else if Text.sameIgnoringCase word "FALSE" then .boolean false
      else match ErrorValue.ofLiteral? word with
        | some e => .error e
        | none => .text input

/-- The name of a truth value. -/
def booleanText (b : Bool) : String := if b then "TRUE" else "FALSE"

/-- A moment as a grid shows it: midnight shows the date alone. -/
def momentText (t : Moment) : List Char :=
  if t.isMidnight then t.date.isoText else t.isoText ' '

/-- The text a grid shows for a value. -/
def display : Value → String
  | .number x => String.ofList (showNumber x)
  | .text s => s
  | .boolean b => booleanText b
  | .date t => String.ofList (momentText t)
  | .error e => e.literal
  | .empty => ""

@[simp] theorem display_text (s : String) : display (.text s) = s := rfl

@[simp] theorem display_empty : display .empty = "" := rfl

/-! ## 2. Conversions -/

/-- A value as an operand of arithmetic: truth values count 1 and 0, no value counts 0, dates are
    their serials, and text is read as a number. -/
def toNumber : Value → Except ErrorValue Float
  | .number x => .ok x
  | .boolean b => .ok (if b then 1 else 0)
  | .date t => .ok t.serial
  | .empty => .ok 0
  | .text s => match readNumber? (Text.trim s.toList) with
    | some x => .ok x
    | none => .error .value
  | .error e => .error e

/-- The number a value holds. -/
def number? : Value → Option Float
  | .number x => some x
  | .date t => some t.serial
  | _ => none

/-- A value as a condition: a number holds unless it is zero, dates always hold, no value never
    does, and text has to name a truth value. -/
def toBoolean : Value → Except ErrorValue Bool
  | .boolean b => .ok b
  | .number x => .ok (x != 0)
  | .date _ => .ok true
  | .empty => .ok false
  | .text s =>
    if Text.sameIgnoringCase s "TRUE" then .ok true
    else if Text.sameIgnoringCase s "FALSE" then .ok false
    else .error .value
  | .error e => .error e

/-- A value as an operand of text operations. -/
def toText : Value → Except ErrorValue String
  | .error e => .error e
  | v => .ok v.display

/-- Only errors have no text. -/
theorem toText_ok {v : Value} (h : v.isError = false) : v.toText = .ok v.display := by
  cases v <;> first | rfl | simp [isError] at h

/-- A value holds a number exactly when it is numeric. -/
theorem isSome_number? (v : Value) : v.number?.isSome = v.isNumeric := by
  cases v <;> rfl

/-- The number a value holds is what arithmetic takes it for. -/
theorem toNumber_of_number? {v : Value} {x : Float} (h : v.number? = some x) :
    v.toNumber = .ok x := by
  cases v <;> simp_all [number?, toNumber]

end Value

end Gridcalc
