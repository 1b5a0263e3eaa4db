import Gridcalc.Value.Order
import Mathlib.Order.Compare

/-!
# The order of numbers

The numbers of cells are doubles. All of them but the non-number have a place on a line, from minus
infinity over the negative ones, zero and the positive ones to infinity, and are compared by it. The
non-number has none, and counts as equal to every number.

* `Place`: the places of numbers from the lowest to the highest, in a total preorder;
* `Place.ofNumber`: the place of a number, where both zeros are at one place;
* `compareNumbers_eq`: **numbers are compared by their places**;
* `compareNumbers_of_isNaN`: the non-number is equal to all of them.
-/

namespace Gridcalc

open Float.Model Float.Model.UnpackedFloat Std

/-! ## 1. Places -/

/-- A place on the line of numbers: the part of the line, then how far out in it. -/
structure Place where
  part : Int
  exponent : Int
  mantissa : Int

namespace Place

/-- The part of the line decides first, and the exponent before the mantissa. -/
instance : Ord Place where
  compare := compareLex (compareOn part) (compareLex (compareOn exponent) (compareOn mantissa))

instance : TransOrd Place := inferInstanceAs (TransCmp (compareLex _ (compareLex _ _)))

/-- The place of zero. -/
def zero : Place := ⟨0, 0, 0⟩

/-- Where a number stands. The place of the non-number does not matter. -/
def ofUnpacked : UnpackedFloat → Place
  | .infinity .negative => ⟨-2, 0, 0⟩
  | .finite .negative m e _ => ⟨-1, -e, -m⟩
  | .zero _ | .notANumber => zero
  | .finite .positive m e _ => ⟨1, e, m⟩
  | .infinity .positive => ⟨2, 0, 0⟩

theorem compare_natCast (m n : Nat) : Ord.compare (m : Int) (n : Int) = Ord.compare m n := by
  rcases Nat.lt_trichotomy m n with h | rfl | h
  · rw [Nat.compare_eq_lt.mpr h, Int.compare_eq_lt.mpr (by omega)]
  · rw [Nat.compare_eq_eq.mpr rfl, Int.compare_eq_eq.mpr rfl]
  · rw [Nat.compare_eq_gt.mpr h, Int.compare_eq_gt.mpr (by omega)]

theorem compare_neg_neg (a b : Int) : Ord.compare (-a) (-b) = (Ord.compare a b).swap := by
  rw [Int.compare_swap]
  rcases Int.lt_trichotomy a b with h | rfl | h
  · rw [Int.compare_eq_gt.mpr h, Int.compare_eq_gt.mpr (by omega)]
  · rw [Int.compare_eq_eq.mpr rfl, Int.compare_eq_eq.mpr rfl]
  · rw [Int.compare_eq_lt.mpr h, Int.compare_eq_lt.mpr (by omega)]

/-- Numbers of one sign are compared by exponent and mantissa, negative ones the other way round. -/
theorem compare_ofUnpacked_finite (s : Sign) (m m' : Nat) (e e' : Int) (hm : 0 < m)
    (hm' : 0 < m') : (UnpackedFloat.finite s m e hm).compare (.finite s m' e' hm') =
      some (Ord.compare (ofUnpacked (.finite s m e hm)) (ofUnpacked (.finite s m' e' hm'))) := by
  cases s with
  | positive =>
    show some ((Ord.compare e e').then (Ord.compare m m')) =
      some ((Ord.compare e e').then (Ord.compare (m : Int) m'))
    rw [compare_natCast]
  | negative =>
    show some ((Ord.compare e e').then (Ord.compare m m')).swap =
      some ((Ord.compare (-e) (-e')).then (Ord.compare (-(m : Int)) (-(m' : Int))))
    rw [compare_neg_neg, compare_neg_neg, compare_natCast, Ordering.swap_then]

/-- **What is a number is compared by its place.** -/
theorem compare_ofUnpacked {u v : UnpackedFloat} (hu : u.isNaN = false) (hv : v.isNaN = false) :
    u.compare v = some (Ord.compare (ofUnpacked u) (ofUnpacked v)) := by
  cases u with
  | notANumber => cases hu
  | infinity s =>
    cases v with
    | notANumber => cases hv
    | infinity s' => cases s <;> cases s' <;> rfl
    | zero s' => cases s <;> rfl
    | finite s' m' e' hm' => cases s <;> cases s' <;> rfl
  | zero s =>
    cases v with
    | notANumber => cases hv
    | infinity s' => cases s' <;> rfl
    | zero s' => rfl
    | finite s' m' e' hm' => cases s' <;> rfl
  | finite s m e hm =>
    cases v with
    | notANumber => cases hv
    | infinity s' => cases s <;> cases s' <;> rfl
    | zero s' => cases s <;> rfl
    | finite s' m' e' hm' =>
      cases s <;> cases s' <;> first | exact compare_ofUnpacked_finite .. | rfl

end Place

/-! ## 2. Numbers -/

/-- The place of a number. -/
def Place.ofNumber (x : Float) : Place := Place.ofUnpacked x.toModel.unpack

variable {x y : Float}

theorem lt_iff_compare : x < y ↔ x.toModel.unpack.compare y.toModel.unpack = some .lt := by
  have hlt : x < y ↔ UnpackedFloat.lt x.toModel.unpack y.toModel.unpack = true := by
    show Float.lt x y = true ↔ _
    exact decide_eq_true_iff
  rw [hlt, UnpackedFloat.lt, beq_iff_eq]

/-- **Numbers are compared by their places.** -/
theorem compareNumbers_eq (hx : x.isNaN = false) (hy : y.isNaN = false) :
    compareNumbers x y = Ord.compare (Place.ofNumber x) (Place.ofNumber y) := by
  have hxy := Place.compare_ofUnpacked hx hy
  have hyx := Place.compare_ofUnpacked hy hx
  unfold compareNumbers
  simp only [lt_iff_compare, hxy, hyx, Option.some.injEq]
  rw [← Place.ofNumber, ← Place.ofNumber, OrientedOrd.eq_swap (a := Place.ofNumber y)]
  cases Ord.compare (Place.ofNumber x) (Place.ofNumber y) <;> rfl

theorem unpack_of_isNaN (h : x.isNaN = true) : x.toModel.unpack = .notANumber := by
  have hmodel : x.toModel.unpack.isNaN = true := h
  cases hunpack : x.toModel.unpack <;> rw [hunpack] at hmodel <;> first | rfl | cases hmodel

/-- Nothing is comparable to the non-number. -/
theorem compare_notANumber (u : UnpackedFloat) : u.compare .notANumber = none := by
  cases u with
  | infinity s => cases s <;> rfl
  | notANumber => rfl
  | zero s => rfl
  | finite s m e hm => cases s <;> rfl

/-- The non-number is equal to every number. -/
theorem compareNumbers_of_isNaN (h : x.isNaN = true ∨ y.isNaN = true) :
    compareNumbers x y = .eq := by
  have hleft : ∀ u, UnpackedFloat.notANumber.compare u = none := fun _ => rfl
  unfold compareNumbers
  rcases h with h | h <;>
    simp only [lt_iff_compare, unpack_of_isNaN h, compare_notANumber, hleft, reduceCtorEq, if_false]

end Gridcalc
