import Gridcalc.Value.Coercion

/-!
# The order of values

The order that the comparison operators, the lookup functions and sorting share: numbers before
text before truth values before errors. A missing value takes the kind of the other side.

* `compareNumbers` orders numbers, the non-number equal to all of them;
* `compareTexts` orders texts by their small letters;
* `Value.compare` is the order of values.
-/

namespace Gridcalc

/-! ## 1. Numbers and texts -/

/-- The order of two numbers. A number and a non-number count as equal. -/
def compareNumbers (a b : Float) : Ordering :=
  if a < b then .lt else if b < a then .gt else .eq

/-- The order of two numbers, where they have one. -/
def numberOrder? (a b : Float) : Option Ordering :=
  if a.isNaN || b.isNaN then none else some (compareNumbers a b)

/-- The order of two texts by code points, after conversion to small letters. -/
def compareTexts (a b : String) : Ordering :=
  Ord.compare (Text.lowercase a.toList) (Text.lowercase b.toList)

@[simp] theorem compareTexts_self (a : String) : compareTexts a a = .eq := Std.ReflOrd.compare_self

theorem compareTexts_swap (a b : String) : (compareTexts a b).swap = compareTexts b a :=
  Std.OrientedOrd.eq_swap.symm

/-! ## 2. Values -/

namespace Value

/-- The place of the kind of a value in the order. -/
def kindRank : Value → Nat
  | .number _ | .date _ | .empty => 0
  | .text _ => 1
  | .boolean _ => 2
  | .error _ => 3

/-- The order of two values. -/
def compare : Value → Value → Ordering
  | .empty, .empty => .eq
  | .empty, .text s => if s.isEmpty then .eq else .lt
  | .text s, .empty => if s.isEmpty then .eq else .gt
  | .empty, .boolean b => Ord.compare false b
  | .boolean b, .empty => Ord.compare b false
  | .text a, .text b => compareTexts a b
  | .boolean a, .boolean b => Ord.compare a b
  | .error a, .error b => Ord.compare a.rank b.rank
  | a, b =>
    if a.kindRank = 0 ∧ b.kindRank = 0 then compareNumbers (a.number?.getD 0) (b.number?.getD 0)
    else Ord.compare a.kindRank b.kindRank

end Value

end Gridcalc
