import Gridcalc.Builtin.Argument
import Gridcalc.Calendar.Layout

/-!
# Functions of dates and times

Formulas hold dates as serials. A number that is no serial is refused.
-/

namespace Gridcalc.Builtin

/-! ## 1. Parts of a date -/

/-- A serial. -/
def serialAt (args : List Arg) (i : Nat) : Outcome Float := do
  let x ← numberAt args i
  if isSerial x then return x else .refuse .num

/-- A part of the date of a serial. -/
def civilPart (part : Int × Nat × Nat → Int) (args : List Arg) (_ : Context) : Outcome Value := do
  let civil ← .orRefuse .num (civilOfSerial? (← serialAt args 0))
  numberResult (Float.ofInt (part civil))

/-- A part of the time of a serial, by the second of the day. -/
def clockPart (part : Nat → Nat) (args : List Arg) (_ : Context) : Outcome Value := do
  countResult (part (secondOfFraction (fractionOf (← serialAt args 0))))

/-- The serial of a year, a month and a day, which may overflow into each other. -/
def dateOfParts (args : List Arg) (_ : Context) : Outcome Value := do
  let y := toWord (wholeOf (← numberAt args 0))
  let m := toWord (wholeOf (← numberAt args 1))
  let d := toWord (wholeOf (← numberAt args 2))
  numberResult (Float.ofInt (← .orRefuse .num (serialOfParts? y m d)))

def today (_ : List Arg) (ctx : Context) : Outcome Value :=
  numberResult (Float.ofInt ctx.ambient.now.date.serial)

def now (_ : List Arg) (ctx : Context) : Outcome Value := numberResult ctx.ambient.now.serial

/-! ## 2. Weeks -/

/-- The day of the week of a whole serial, 0 being what the 1900 system takes for a Sunday: day 1
    is one. -/
def weekdayOfSerial (day : Int) : Int := (day - 1) % 7

/-- The day on which weeks start for a kind of week, Sunday being 0. -/
def weekStart? (kind : Int) : Option Int :=
  if kind = 1 ∨ kind = 17 then some 0
  else if kind = 2 ∨ kind = 11 then some 1
  else if 12 ≤ kind ∧ kind ≤ 16 then some (kind - 10)
  else none

/-- The day of the week counted from one; kind 3 counts from zero on Monday. -/
def weekday (args : List Arg) (_ : Context) : Outcome Value := do
  let serial ← serialAt args 0
  let kind := toWord (wholeOf (← numberAtOr args 1 1))
  let day := weekdayOfSerial (serialDay serial)
  if kind = 3 then numberResult (Float.ofInt ((day - 1) % 7))
  else
    let start ← .orRefuse .num (weekStart? kind)
    numberResult (Float.ofInt ((day - start) % 7 + 1))

/-- The number of the week that holds a day, given the first day of the year and the day weeks start
    on: the week of the first of January is week 1. -/
def weekOfYear (day newYear start : Int) : Int :=
  let lead := (weekdayOfSerial newYear - start) % 7
  (day - newYear + lead).tdiv 7 + 1

/-- The week of the year. Kind 21 counts weeks from Monday, week 1 being the one with the first
    Thursday. -/
def weekNumber (args : List Arg) (_ : Context) : Outcome Value := do
  let serial ← serialAt args 0
  let kind := toWord (wholeOf (← numberAtOr args 1 1))
  if kind = 21 then
    let t ← .orRefuse .num (momentOfSerial? serial)
    countResult t.date.isoWeek
  else
    let start ← .orRefuse .num (weekStart? kind)
    let (year, _, _) ← .orRefuse .num (civilOfSerial? serial)
    numberResult (Float.ofInt (weekOfYear (serialDay serial) (Date.newYear year).serial start))

/-! ## 3. Written values -/

/-- The number that a text says: a number, a date or a time. -/
def writtenValue? (cs : List Char) : Option Float := (readNumber? cs).or (serialOfText? cs)

/-- A value as a number; a text is read. -/
def valueOfText (args : List Arg) (_ : Context) : Outcome Value :=
  match scalarAt args 0 with
  | .number x => numberResult x
  | .date t => numberResult t.serial
  | .empty => numberResult 0
  | .error e => .refuse e
  | .boolean _ => .refuse .value
  | .text s => do numberResult (← .orRefuse .value (writtenValue? (Text.trim s.toList)))

end Gridcalc.Builtin
