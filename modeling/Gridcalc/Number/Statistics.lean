import Gridcalc.Number.Binary

/-!
# Figures of a list of numbers

Sums, means, ranks and spreads. A figure that a list does not have is none.

* `total`, `product`, `least?`, `greatest?`, `average?`, `median?`, `mode?`, `variance?`;
* `percentile?` and `percentileInside?` interpolate between ranks, with and without the ends.
-/

namespace Gridcalc

/-! ## 1. Sums and extremes -/

def total (xs : List Float) : Float := xs.foldl (· + ·) 0

def product (xs : List Float) : Float := xs.foldl (· * ·) 1

/-- The lesser of two numbers; a non-number gives way to the other. -/
def lesser (a b : Float) : Float := if a.isNaN then b else if b < a then b else a

/-- The greater of two numbers; a non-number gives way to the other. -/
def greater (a b : Float) : Float := if a.isNaN then b else if a < b then b else a

def least? : List Float → Option Float
  | [] => none
  | x :: xs => some (xs.foldl lesser x)

def greatest? : List Float → Option Float
  | [] => none
  | x :: xs => some (xs.foldl greater x)

/-! ## 2. Means and spreads -/

def average? (xs : List Float) : Option Float :=
  if xs.isEmpty then none else some (total xs / Float.ofNat xs.length)

/-- The middle number, or half the sum of the two in the middle. -/
def median? (xs : List Float) : Option Float :=
  let sorted := sortNumbers xs
  let mid := sorted.length / 2
  if sorted.isEmpty then none
  else if sorted.length % 2 = 0 then
    some ((sorted.getD (mid - 1) 0 + sorted.getD mid 0) / 2)
  else sorted[mid]?

/-- The numbers of a list from each place on with how often the first of them occurs there. -/
def occurrences : List Float → List (Float × Nat)
  | [] => []
  | x :: xs => (x, (x :: xs).countP (· == x)) :: occurrences xs

/-- The most frequent number that occurs twice at least; of several the one that comes first. -/
def mode? (xs : List Float) : Option Float :=
  let better (best : Option (Float × Nat)) (x : Float × Nat) : Option (Float × Nat) :=
    match best with
    | none => if 1 < x.2 then some x else none
    | some b => if b.2 < x.2 then some x else some b
  ((occurrences xs).foldl better none).map (·.1)

/-- The mean square distance from the mean; a sample counts one number less. -/
def variance? (sample : Bool) (xs : List Float) : Option Float :=
  let n := xs.length
  let divisor := if sample then n - 1 else n
  if divisor = 0 then none
  else
    let mean := total xs / Float.ofNat n
    some (total (xs.map fun x => powerOf (x - mean) 2) / Float.ofNat divisor)

/-! ## 3. Ranks -/

/-- The number at a rank of a sorted list, in proportion between two neighbours. -/
def interpolate (sorted : List Float) (rank : Float) : Float :=
  let lower := toCount (floorOf rank)
  let upper := min (lower + 1) (sorted.length - 1)
  let low := sorted.getD lower 0
  low + (rank - Float.ofNat lower) * (sorted.getD upper 0 - low)

/-- The number below which a share of the list lies, both ends of the list included. -/
def percentile? (xs : List Float) (share : Float) : Option Float :=
  if xs.isEmpty || !(0 ≤ share && share ≤ 1) then none
  else some (interpolate (sortNumbers xs) (share * Float.ofNat (xs.length - 1)))

/-- The number below which a share of the list lies, both ends of the list left out. -/
def percentileInside? (xs : List Float) (share : Float) : Option Float :=
  let n := Float.ofNat xs.length
  if xs.isEmpty || share ≤ 0 || 1 ≤ share then none
  else
    let rank := share * (n + 1) - 1
    if rank < 0 || n - 1 < rank then none else some (interpolate (sortNumbers xs) rank)

/-- A quartile with the ends included: 0 to 4. -/
def quartile? (xs : List Float) (n : Float) : Option Float :=
  let n := wholeOf n
  if 0 ≤ n && n ≤ 4 then percentile? xs (n / 4) else none

/-- A quartile with the ends left out: 1 to 3. -/
def quartileInside? (xs : List Float) (n : Float) : Option Float :=
  let n := wholeOf n
  if 1 ≤ n && n ≤ 3 then percentileInside? xs (n / 4) else none

/-! ## 4. Rounding to decimal places -/

/-- A number moved away from zero by a trillionth of itself, so that a product that falls just
    short of a half is rounded like the half. -/
def nudged (x : Float) : Float := x + signOf x * x.abs * 1e-12

/-- The nearest number with so many decimal places, a half away from zero; negative places are
    places in front of the point. -/
def roundToPlaces (x : Float) (places : Int) : Float :=
  if 0 ≤ places then
    let factor := powerOf 10 places
    roundOf (nudged (x * factor)) / factor
  else
    let factor := powerOf 10 (-places)
    roundOf (nudged (x / factor)) * factor

/-- The magnitude of a number rounded by `f` at a decimal place, with the sign of the number. Noise
    past nine further places is taken off first. -/
def roundMagnitude (f : Float → Float) (x : Float) (places : Int) : Float :=
  let factor := powerOf 10 places.natAbs
  let rounded :=
    if 0 ≤ places then f (roundOf (x.abs * factor * 1e9) / 1e9) / factor
    else f (x.abs / factor) * factor
  withSignOf rounded x

end Gridcalc
