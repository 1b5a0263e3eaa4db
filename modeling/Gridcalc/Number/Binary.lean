/-!
# Doubles as exact binary fractions

A double is read off its 64 bits as a sign, a natural significand and a power of two, and a
quotient of naturals is rounded to the nearest double by filling in those bits. Everything that
depends on the exact value of a number (its digits, its whole part, its place in the order of all
doubles) goes through this reading.

* `Binary.ofFloat` reads a double, `Binary.nearest` writes the double nearest to a quotient;
* `whole`, `floorOf`, `ceilingOf`, `roundOf`, `fractionOf` are the whole-number roundings;
* `truncateWithin` is the integer a number is cut to inside fixed bounds;
* `powerOf` raises to a whole power by repeated squaring;
* `totalKey` orders all doubles, signed zeros and the non-number included.
-/

namespace Gridcalc

/-! ## 1. Reading a double -/

/-- A power of two. -/
abbrev twoTo (n : Nat) : Nat := Nat.pow 2 n

/-- A power of ten. -/
abbrev tenTo (n : Nat) : Nat := Nat.pow 10 n

/-- What the bits of a double stand for: `finite s m e` is `m * 2 ^ e` with sign `s`. -/
inductive Binary where
  | notANumber
  | infinite (negative : Bool)
  | finite (negative : Bool) (significand : Nat) (exponent : Int)
  deriving DecidableEq, Repr

namespace Binary

/-- The sign is the top bit, the next eleven bits are the exponent field, the rest the fraction.
    Field 0 holds the subnormal numbers, field 2047 the infinities and the non-number. -/
def ofBits (bits : Nat) : Binary :=
  let negative := decide (twoTo 63 ≤ bits)
  let field : Nat := bits / twoTo 52 % twoTo 11
  let fraction : Nat := bits % twoTo 52
  if field = 2047 then
    if fraction = 0 then .infinite negative else .notANumber
  else if field = 0 then .finite negative fraction (-1074)
  else .finite negative (fraction + twoTo 52) ((field : Int) - 1075)

/-- The exact reading of a double. -/
def ofFloat (x : Float) : Binary := ofBits x.toBits.toNat

/-- A field other than 2047 reads as a finite number. -/
theorem ofBits_finite {bits : Nat} (h : bits / twoTo 52 % twoTo 11 ≠ 2047) :
    ∃ m e, ofBits bits = .finite (decide (twoTo 63 ≤ bits)) m e := by
  unfold ofBits
  simp only [h, if_false]
  split
  · exact ⟨_, _, rfl⟩
  · exact ⟨_, _, rfl⟩

/-! ## 2. Rounding a quotient -/

/-- The natural nearest to `num / den`; a half goes to the even neighbour. -/
def roundHalfEven (num den : Nat) : Nat :=
  let q := num / den
  let r := num % den
  if 2 * r < den then q
  else if den < 2 * r then q + 1
  else if q % 2 = 0 then q else q + 1

/-- A quotient without remainder is its own rounding. -/
theorem roundHalfEven_mul (n : Nat) {den : Nat} (h : 0 < den) :
    roundHalfEven (n * den) den = n := by
  simp [roundHalfEven, Nat.mul_div_cancel n h, Nat.mul_mod_left, h]

/-- The power of two that gives `num / den` a significand of 53 bits, but never one below the
    subnormal step `-1074`. -/
def stepExponent (num den : Nat) : Int :=
  let guess : Int := (num.log2 : Int) - den.log2 - 53
  let low := max guess (-1074)
  if num * twoTo (-low).toNat / (den * twoTo low.toNat) < twoTo 53 then low else low + 1

/-- The bits of the double nearest to `num / den` with `den` positive. A significand that rounds
    up to `2 ^ 53` carries into the exponent field by itself, and a field beyond the largest is an
    infinity. -/
def nearestBits (num den : Nat) : Nat :=
  if num = 0 then 0
  else
    let step := stepExponent num den
    let m := roundHalfEven (num * twoTo (-step).toNat) (den * twoTo step.toNat)
    let bits := m + (step + 1074).toNat * twoTo 52
    min bits (2047 * twoTo 52)

/-- The double nearest to the quotient `num / den`, with the given sign. -/
def nearest (negative : Bool) (num den : Nat) : Float :=
  Float.ofBits (nearestBits num den + if negative then twoTo 63 else 0).toUInt64

end Binary

/-! ## 3. Whole-number roundings

A double whose exponent is not negative is whole already. For the others the significand is cut
at the binary point; the sign is kept, so that `-0.3` is cut to the negative zero. -/

/-- A natural with a sign, as a double. -/
def signedWhole (negative : Bool) (n : Nat) : Float :=
  if negative then -(Float.ofNat n) else Float.ofNat n

/-- Replaces the whole part of a fractional number: `f` is given the sign, the whole part, and the
    numerator and denominator of what is cut off. -/
def replaceWhole (f : Bool → Nat → Nat → Nat → Nat) (x : Float) : Float :=
  match Binary.ofFloat x with
  | .finite negative m e =>
    if 0 ≤ e then x
    else
      let den := twoTo (-e).toNat
      signedWhole negative (f negative (m / den) (m % den) den)
  | _ => x

/-- The whole number next to `x` on the side of zero. -/
def wholeOf : Float → Float := replaceWhole fun _ q _ _ => q

/-- The greatest whole number not above `x`. -/
def floorOf : Float → Float :=
  replaceWhole fun negative q r _ => if negative && r != 0 then q + 1 else q

/-- The least whole number not below `x`. -/
def ceilingOf : Float → Float :=
  replaceWhole fun negative q r _ => if !negative && r != 0 then q + 1 else q

/-- The nearest whole number; a half goes away from zero. -/
def roundOf : Float → Float :=
  replaceWhole fun _ q r den => if den ≤ 2 * r then q + 1 else q

/-- What is left of `x` after its whole part; a non-number for an infinity. -/
def fractionOf (x : Float) : Float := x - wholeOf x

/-- The integer `x` is cut to, moved to the nearer end where it falls outside `lo … hi`. The
    non-number is cut to zero. -/
def truncateWithin (lo hi : Int) (x : Float) : Int :=
  match Binary.ofFloat x with
  | .notANumber => 0
  | .infinite negative => if negative then lo else hi
  | .finite negative m e =>
    let n : Nat := if 0 ≤ e then m * twoTo e.toNat else m / twoTo (-e).toNat
    max lo (min hi (if negative then -(n : Int) else n))

/-- A number cut inside bounds stays inside them. -/
theorem truncateWithin_mem {lo hi : Int} (hlo : lo ≤ 0) (hhi : 0 ≤ hi) (x : Float) :
    lo ≤ truncateWithin lo hi x ∧ truncateWithin lo hi x ≤ hi := by
  unfold truncateWithin
  split
  · exact ⟨hlo, hhi⟩
  · split <;> constructor <;> omega
  · exact ⟨Int.le_max_left _ _, Int.max_le.mpr ⟨by omega, Int.min_le_left _ _⟩⟩

/-- A number cut to a 64-bit integer. -/
def toWord : Float → Int := truncateWithin (-twoTo 63) (twoTo 63 - 1)

/-- A number cut to a count: negative numbers and the non-number count zero, and no count reaches
    `2 ^ 64`. -/
def toCount (x : Float) : Nat := (truncateWithin 0 (twoTo 64 - 1) x).toNat

/-! ## 4. Powers, magnitudes and the order of all doubles -/

/-- The factors of `base ^ n` that repeated squaring multiplies into `acc`. -/
def squareUp (base acc : Float) (n : Nat) : Float :=
  let acc := if n % 2 = 1 then acc * base else acc
  if n / 2 = 0 then acc else squareUp (base * base) acc (n / 2)
termination_by n
decreasing_by omega

/-- A whole power by repeated squaring; a negative power is the reciprocal of the positive one. -/
def powerOf (base : Float) (n : Int) : Float :=
  let p := squareUp base 1 n.natAbs
  if n < 0 then 1 / p else p

/-- Whether the sign bit is set. -/
def hasMinus (x : Float) : Bool := decide (twoTo 63 ≤ x.toBits.toNat)

/-- The magnitude of `x` with the sign of `y`. -/
def withSignOf (x y : Float) : Float := if hasMinus y then -x.abs else x.abs

/-- One with the sign of `x`; the non-number keeps no sign. -/
def signOf (x : Float) : Float := if x.isNaN then x else if hasMinus x then -1 else 1

/-- A key whose integer order places every double: the infinities around the finite numbers, the
    negative zero before the positive one, and the non-number last. -/
def totalKey (x : Float) : Int :=
  let bits := x.toBits.toNat
  if bits < twoTo 63 then bits else (twoTo 63 : Int) - 1 - bits

/-- A list of numbers in the order of all doubles. -/
def sortNumbers (xs : List Float) : List Float :=
  xs.mergeSort fun a b => decide (totalKey a ≤ totalKey b)

theorem sortNumbers_perm (xs : List Float) : (sortNumbers xs).Perm xs :=
  List.mergeSort_perm xs _

@[simp] theorem length_sortNumbers (xs : List Float) : (sortNumbers xs).length = xs.length :=
  (sortNumbers_perm xs).length_eq

end Gridcalc
