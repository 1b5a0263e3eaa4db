import Gridcalc.Number.Decimal
import Gridcalc.Text.Blank

/-!
# Numbers in cells

How a grid reads a number that is typed in, and how it shows one.

* `readNumber?` reads decimals with thousands separators and percent signs;
* `showNumber` writes at most fifteen decimal places and no trailing noise.
-/

namespace Gridcalc

/-! ## 1. Reading -/

/-- A character that a plain number can hold. -/
def isNumberChar (c : Char) : Bool :=
  c.isDigit || c == '.' || c == 'e' || c == 'E' || c == '+' || c == '-'

/-- A finite number without a percent sign. Commas are left out wherever they stand. -/
def readPlainNumber? (cs : List Char) : Option Float :=
  let cs := cs.filter (· ≠ ',')
  if cs.all isNumberChar then (Decimal.read? cs).filter Float.isFinite else none

/-- Reads a number from its end backwards: each percent sign at the end stands for a hundredth of
    the number before it, and blanks may separate the two. -/
def readNumberBackwards? : List Char → Option Float
  | [] => none
  | c :: cs =>
    if c = '%' then (readNumberBackwards? (cs.dropWhile Text.isBlank)).map (· / 100)
    else readPlainNumber? (c :: cs).reverse
termination_by cs => cs.length
decreasing_by
  have := (List.dropWhile_suffix (l := cs) Text.isBlank).length_le
  simp only [List.length_cons]; omega

/-- The number that a text says, if it says one. -/
def readNumber? (cs : List Char) : Option Float := readNumberBackwards? cs.reverse

@[simp] theorem readNumber?_nil : readNumber? [] = none := by
  simp [readNumber?, readNumberBackwards?]

/-! ## 2. Showing -/

/-- A text without the given character at its end. -/
def dropTrailing (c : Char) (cs : List Char) : List Char :=
  (cs.reverse.dropWhile (· == c)).reverse

/-- A number as a grid shows it: whole numbers below `10 ^ 15` as such, others with at most fifteen
    decimal places and no zeros at the end; where that takes more than twenty characters or leaves
    only zero, the fewest digits that read back. The non-number shows as a number error. -/
def showNumber (x : Float) : List Char :=
  if x.isNaN then "#NUM!".toList
  else if fractionOf x == 0 && x.abs < 1e15 then integerText (toWord x)
  else
    let cs := dropTrailing '.' (dropTrailing '0' (fixedText 15 x))
    if 20 < cs.length || cs == ['0'] || cs == ['-', '0'] then shortText x else cs

end Gridcalc
