import Gridcalc.Number.Binary

/-!
# Decimal text of numbers

Reading and writing doubles in base ten.

* `shortest` is the shortest decimal that reads back as a given double, the nearest one where
  several are equally short;
* `positional` writes a decimal without an exponent, `exact` a double with a fixed number of
  places, `scientific` a decimal with one digit before the point and an exponent;
* `Decimal.read?` reads sign, digits, point and exponent, and `Decimal.toFloat` gives the nearest
  double.
-/

namespace Gridcalc

/-! ## 1. Digits -/

/-- The value of a run of decimal digits. -/
def digitsValue (cs : List Char) : Nat :=
  cs.foldl (fun n c => n * 10 + (c.toNat - '0'.toNat)) 0

/-- The decimal digits of a natural. -/
def naturalText (n : Nat) : List Char := Nat.toDigits 10 n

/-- The decimal digits of an integer, with a minus sign where it is negative. -/
def integerText (n : Int) : List Char :=
  if n < 0 then '-' :: naturalText n.natAbs else naturalText n.natAbs

/-- A run of zeros in front of a text that is too short. -/
def padZeros (width : Nat) (cs : List Char) : List Char :=
  List.replicate (width - cs.length) '0' ++ cs

@[simp] theorem digitsValue_nil : digitsValue [] = 0 := rfl

theorem le_length_padZeros (width : Nat) (cs : List Char) :
    width ≤ (padZeros width cs).length := by
  simp [padZeros]; omega

/-! ## 2. The shortest decimal of a double -/

/-- A decimal: `digits * 10 ^ exponent`. -/
structure Decimal where
  digits : Nat
  exponent : Int
  deriving DecidableEq, Repr

namespace Decimal

/-- The quarter step of a positive double `m * 2 ^ e`: the double is `4 * m` of them, and the
    doubles that round to it reach from `4 * m - 2` (or `4 * m - 1` at a power of two, where the
    lower neighbour is nearer) to `4 * m + 2`. -/
def lowerReach (m : Nat) (e : Int) : Nat :=
  if m = twoTo 52 ∧ -1074 < e then 4 * m - 1 else 4 * m - 2

/-- A quarter step over the grid of multiples of `10 ^ k`, as a quotient of naturals. -/
def quarterOverGrid (e k : Int) : Nat × Nat :=
  (twoTo (e - 2).toNat * tenTo (-k).toNat, twoTo (2 - e).toNat * tenTo k.toNat)

/-- The nearest multiple of `10 ^ k` that rounds to `m * 2 ^ e`, when one of the two neighbours of
    that value on the grid does. An end of the reach counts when the significand is even; an exact
    tie goes up. -/
def onGrid? (m : Nat) (e k : Int) : Option Nat :=
  let (num, den) := quarterOverGrid e k
  let value := 4 * m * num
  let low := lowerReach m e * num
  let high := (4 * m + 2) * num
  let down := value / den
  let rest := value % den
  let reaches (c : Nat) : Bool :=
    if m % 2 = 0 then low ≤ c * den && c * den ≤ high else low < c * den && c * den < high
  match reaches down, reaches (down + 1) with
  | true, true => some (if den ≤ 2 * rest then down + 1 else down)
  | true, false => some down
  | false, true => some (down + 1)
  | false, false => none

/-- The number of digits before the point of `m * 2 ^ e`: the least `p` with the value below
    `10 ^ p`. A logarithm to the base two gives it up to the two candidates after it. -/
def wholeDigits (m : Nat) (e : Int) : Int :=
  let guess := (e + m.log2) * 30103 / 100000
  let below (p : Int) : Bool :=
    m * twoTo e.toNat * tenTo (-p).toNat < tenTo p.toNat * twoTo (-e).toNat
  if below guess then guess
  else if below (guess + 1) then guess + 1
  else guess + 2

/-- The same decimal without zeros at the end of its digits. -/
def trimmed (d : Decimal) : Decimal :=
  if h : d.digits ≠ 0 ∧ d.digits % 10 = 0 then trimmed ⟨d.digits / 10, d.exponent + 1⟩ else d
termination_by d.digits
decreasing_by exact Nat.div_lt_self (Nat.pos_of_ne_zero h.1) (by decide)

/-- The fewest digits that read back as `m * 2 ^ e`, tried from one digit up; seventeen digits
    always do. -/
def shortest (m : Nat) (e : Int) : Decimal :=
  let p := wholeDigits m e
  let fit? (n : Nat) : Option Decimal :=
    let k := p - (n + 1 : Nat)
    (onGrid? m e k).map fun digits => trimmed ⟨digits, k⟩
  ((List.range 18).findSome? fit?).getD ⟨m, e⟩

/-! ## 3. Writing -/

/-- A decimal without an exponent: zeros fill up to the point. -/
def positional (d : Decimal) : List Char :=
  let cs := naturalText d.digits
  if 0 ≤ d.exponent then cs ++ List.replicate d.exponent.toNat '0'
  else
    let places := (-d.exponent).toNat
    let cs := padZeros (places + 1) cs
    cs.take (cs.length - places) ++ '.' :: cs.drop (cs.length - places)

/-- A decimal with one digit before the point and the exponent after the letter `e`. -/
def scientific (d : Decimal) : List Char :=
  let cs := naturalText d.digits
  let point := d.exponent + (cs.length - 1 : Nat)
  match cs with
  | [] => []
  | [c] => c :: 'e' :: integerText point
  | c :: rest => c :: '.' :: rest ++ 'e' :: integerText point

end Decimal

/-- The minus sign of a negative number. -/
def minusText (negative : Bool) (cs : List Char) : List Char :=
  if negative then '-' :: cs else cs

/-- A double in as many digits as reading back needs, without an exponent. -/
def shortText (x : Float) : List Char :=
  match Binary.ofFloat x with
  | .notANumber => "NaN".toList
  | .infinite negative => minusText negative "inf".toList
  | .finite negative m e =>
    minusText negative (if m = 0 then ['0'] else (Decimal.shortest m e).positional)

/-- A double in as many digits as reading back needs, always with a point or an exponent: the
    exponent form holds below `1e-4` and from `1e16` on. -/
def pointedText (x : Float) : List Char :=
  match Binary.ofFloat x with
  | .notANumber => "NaN".toList
  | .infinite negative => minusText negative "inf".toList
  | .finite negative m e =>
    minusText negative <|
      if m = 0 then "0.0".toList
      else
        let d := Decimal.shortest m e
        if 1e16 ≤ x.abs || x.abs < 1e-4 then d.scientific
        else
          let cs := d.positional
          if cs.contains '.' then cs else cs ++ ".0".toList

/-- A natural read as so many units of the last of `places` decimal places. -/
def placesText (places n : Nat) : List Char :=
  let cs := padZeros (places + 1) (naturalText n)
  if places = 0 then cs
  else cs.take (cs.length - places) ++ '.' :: cs.drop (cs.length - places)

/-- A double with exactly `places` decimal places; a half goes to the even neighbour. -/
def fixedText (places : Nat) (x : Float) : List Char :=
  match Binary.ofFloat x with
  | .notANumber => "NaN".toList
  | .infinite negative => minusText negative "inf".toList
  | .finite negative m e =>
    let n := Binary.roundHalfEven (m * twoTo e.toNat * tenTo places) (twoTo (-e).toNat)
    minusText negative (placesText places n)

/-! ## 4. Reading -/

/-- A leading sign, if there is one. -/
def takeSign : List Char → Bool × List Char
  | '-' :: cs => (true, cs)
  | '+' :: cs => (false, cs)
  | cs => (false, cs)

/-- The fraction after a point, if there is one, and what follows it. -/
def takeFraction : List Char → List Char × List Char
  | '.' :: cs => (cs.takeWhile Char.isDigit, cs.dropWhile Char.isDigit)
  | cs => ([], cs)

/-- An exponent that takes up the whole text: a letter `e`, a sign, and at least one digit. -/
def readExponent? : List Char → Option Int
  | [] => some 0
  | c :: cs =>
    let (negative, ds) := takeSign cs
    if (c == 'e' || c == 'E') && !ds.isEmpty && ds.all Char.isDigit then
      let n : Int := digitsValue ds
      some (if negative then -n else n)
    else none

namespace Decimal

/-- The double nearest to a signed decimal. A decimal far outside the range of the doubles is not
    multiplied out. -/
def toFloat (negative : Bool) (d : Decimal) : Float :=
  let size : Int := d.exponent + (naturalText d.digits).length
  if d.digits = 0 || size < -330 then Binary.nearest negative 0 1
  else if 310 < size then Binary.nearest negative (tenTo 310) 1
  else Binary.nearest negative (d.digits * tenTo d.exponent.toNat) (tenTo (-d.exponent).toNat)

/-- A number as text: a sign, digits with at most one point and at least one digit on either side
    of it, and an exponent. -/
def read? (cs : List Char) : Option Float :=
  let (negative, cs) := takeSign cs
  let whole := cs.takeWhile Char.isDigit
  let (fraction, rest) := takeFraction (cs.dropWhile Char.isDigit)
  if whole.isEmpty && fraction.isEmpty then none
  else
    (readExponent? rest).map fun n =>
      toFloat negative ⟨digitsValue (whole ++ fraction), n - fraction.length⟩

end Decimal

end Gridcalc
