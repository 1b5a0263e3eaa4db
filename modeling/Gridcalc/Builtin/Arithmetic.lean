import Gridcalc.Builtin.Argument
import Gridcalc.Builtin.Criterion
import Gridcalc.Number.Statistics

/-!
# Arithmetic functions

Sums and products, remainders, rounding, random numbers, and sums over the cells that satisfy a
condition.
-/

namespace Gridcalc.Builtin

/-! ## 1. Sums and remainders -/

def sum (args : List Arg) (_ : Context) : Outcome Value := do
  numberResult (total (← numbersOf args))

/-- No numbers have the product 0. -/
def productOfAll (args : List Arg) (_ : Context) : Outcome Value := do
  let xs ← numbersOf args
  numberResult (if xs.isEmpty then 0 else product xs)

def absolute (args : List Arg) (_ : Context) : Outcome Value := do
  numberResult (← numberAt args 0).abs

/-- The remainder with the sign of the divisor. -/
def remainder (args : List Arg) (_ : Context) : Outcome Value := do
  let n ← numberAt args 0
  let d ← numberAt args 1
  if d == 0 then .refuse .divZero else numberResult (n - d * floorOf (n / d))

/-! ## 2. Rounding -/

/-- How many decimal places to round to, within the range of the doubles. -/
def placesAt (args : List Arg) (i : Nat) : Outcome Int := do
  return truncateWithin (-308) 308 (wholeOf (← numberAtOr args i 0))

def integerBelow (args : List Arg) (_ : Context) : Outcome Value := do
  numberResult (floorOf (← numberAt args 0))

def round (args : List Arg) (_ : Context) : Outcome Value := do
  let x ← numberAt args 0
  numberResult (roundToPlaces x (← placesAt args 1))

/-- Rounds away from zero. -/
def roundUp (args : List Arg) (_ : Context) : Outcome Value := do
  let x ← numberAt args 0
  numberResult (roundMagnitude ceilingOf x (← placesAt args 1))

/-- Rounds toward zero. -/
def roundDown (args : List Arg) (_ : Context) : Outcome Value := do
  let x ← numberAt args 0
  numberResult (roundMagnitude floorOf x (← placesAt args 1))

/-! ## 3. Random numbers -/

def random (_ : List Arg) (ctx : Context) : Outcome Value := numberResult ctx.draw

/-- A whole number between two bounds, both included. -/
def randomBetween (args : List Arg) (ctx : Context) : Outcome Value := do
  let low := ceilingOf (← numberAt args 0)
  let high := floorOf (← numberAt args 1)
  if high < low then .refuse .num
  else
    let first := toWord low
    let last := toWord high
    if last < first then .error (.fault .emptyDraw)
    else
      let span := last - first + 1
      let step := min (truncateWithin 0 (twoTo 64) (ctx.draw * Float.ofInt span)) (span - 1)
      numberResult (Float.ofInt (first + step))

/-! ## 4. Sums with a condition -/

/-- The numbers of the cells that stand beside the cells satisfying a condition. The tested
    rectangle and the summed one share the top left corner only; the summed one takes the shape of
    the other, even past its own end. -/
def numbersBeside (tested summed : RangeView) (criterion : Criterion) : Outcome (List Float) :=
  let beside := tested.range.rows.flatMap fun row => tested.range.cols.filterMap fun col =>
    let (r, c) := (row - tested.range.firstRow, col - tested.range.firstCol)
    if criterion.admits (tested.value r c) then
      let place := summed.absolute r c
      summed.sheet.value? place.row place.col
    else none
  numbersOfCells beside

/-- The numbers that a conditional function works on: those of its third argument, or of its first
    one, where the first satisfies the condition. -/
def conditionalNumbers (args : List Arg) : Outcome (List Float) := do
  let tested ← rangeAt args 0
  let criterion := Criterion.ofValue (scalarAt args 1)
  let summed ← if args.length ≤ 2 then pure tested else rangeAt args 2
  numbersBeside tested summed criterion

def sumIf (args : List Arg) (_ : Context) : Outcome Value := do
  numberResult (total (← conditionalNumbers args))

end Gridcalc.Builtin
