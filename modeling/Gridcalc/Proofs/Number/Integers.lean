import Gridcalc.Proofs.Number.Wholes

/-!
# Integers and whole parts

Doubles that are integers, as years and days are given, and the whole parts of those from zero on.

* `IsInteger`, `isInteger_ofInt`: the double is an integer, with its sign;
* `IsInteger.replaceWhole`, `IsInteger.toWord_eq`: such a number is left as it is by every way of
  cutting, and is cut to itself as a machine word;
* `HasWholePart`: the double is a number from zero on with a whole part;
* `HasWholePart.lt_ofNat_iff`, `HasWholePart.ofNat_le_iff`: **it is compared to natural numbers as
  its whole part is**;
* `HasWholePart.floorOf`: which is the greatest integer not above it.
-/

namespace Gridcalc

open Float.Model Float.Model.UnpackedFloat

/-! ## 1. Integers among the doubles -/

/-- The double is the integer `k`. A zero may have a minus. -/
def IsInteger (x : Float) (k : Int) : Prop :=
  ∃ negative m e, Binary.ofFloat x = .finite negative m e ∧
    (k ≠ 0 → (negative = true ↔ k < 0)) ∧ m * 2 ^ e.toNat = k.natAbs * 2 ^ (-e).toNat

section Integers

variable {x : Float} {k : Int} {n : Nat}

/-- A natural number with a sign, read off its bits. -/
theorem exists_ofFloat_signedWhole (negative : Bool) (h : n < 2 ^ 53) : ∃ j : Nat,
    Binary.ofFloat (signedWhole negative n) = .finite negative (n * 2 ^ j) (-(j : Int)) := by
  cases negative with
  | false => exact exists_ofFloat_ofNat h
  | true =>
    by_cases h0 : n = 0
    · subst h0
      refine ⟨1074, ?_⟩
      rw [Nat.zero_mul]
      rfl
    · obtain ⟨hlow, hhigh⟩ := leadingExponent_bounds h0 h
      have hneg : (-(Float.ofNat n)).toModel.unpack =
          .finite .negative (leading n) (leadingExponent n) (leading_pos h0) := by
        show (Float.Model.pack (Float.ofNat n).toModel.unpack.neg).unpack = _
        rw [unpack_ofNat h0 h]
        exact unpack_pack_normal (log2_leading h0 h) (by omega) (by omega) (leading_pos h0)
      refine ⟨52 - n.log2, ?_⟩
      show Binary.ofFloat (-(Float.ofNat n)) = _
      rw [ofFloat_eq, hneg, Binary.ofUnpacked, leading, leadingExponent_eq_neg h0 h]
      rfl

theorem isInteger_signedWhole (negative : Bool) (h : n < 2 ^ 53) :
    IsInteger (signedWhole negative n) (if negative then -(n : Int) else n) := by
  obtain ⟨j, hread⟩ := exists_ofFloat_signedWhole negative h
  refine ⟨negative, _, _, hread, fun hne => ?_, ?_⟩
  · cases negative with
    | false => simp
    | true =>
      rw [if_pos rfl] at hne ⊢
      exact ⟨fun _ => by omega, fun _ => rfl⟩
  · rw [Int.neg_neg, Int.toNat_natCast, Int.toNat_neg_natCast, Nat.pow_zero, Nat.mul_one]
    cases negative <;> simp

theorem isInteger_ofInt (h : k.natAbs < 2 ^ 53) : IsInteger (Float.ofInt k) k := by
  cases k with
  | ofNat n => exact isInteger_signedWhole false h
  | negSucc n => exact isInteger_signedWhole true h

/-- An integer is its magnitude with its sign. -/
theorem signed_natAbs {negative : Bool} (h : k ≠ 0 → (negative = true ↔ k < 0)) :
    (if negative then -(k.natAbs : Int) else k.natAbs) = k := by
  by_cases h0 : k = 0
  · subst h0
    cases negative <;> rfl
  · have hsign := h h0
    cases negative with
    | false =>
      have hnot : ¬ k < 0 := fun hless => absurd (hsign.mpr hless) Bool.false_ne_true
      simp only [Bool.false_eq_true, if_false]
      omega
    | true =>
      have hless : k < 0 := hsign.mp rfl
      simp only [if_true]
      omega

/-- Cutting off what is behind the point leaves an integer as it is, whichever way it is done. -/
theorem IsInteger.replaceWhole (h : IsInteger x k) {f : Bool → Nat → Nat → Nat → Nat}
    (hf : ∀ negative q den, 0 < den → f negative q 0 den = q) :
    IsInteger (replaceWhole f x) k := by
  obtain ⟨negative, m, e, hread, hsign, hvalue⟩ := h
  unfold Gridcalc.replaceWhole
  rw [hread]
  dsimp only
  split
  · exact ⟨negative, m, e, hread, hsign, hvalue⟩
  · rename_i he
    obtain ⟨hbound, -⟩ := bounds_of_ofFloat hread
    have hpos : 0 < 2 ^ (-e).toNat := by positivity
    have hsignificand := significand_eq hvalue he
    have hk : k.natAbs < 2 ^ 53 := lt_of_significand_eq hsignificand hbound
    rw [twoTo_eq, hsignificand, Nat.mul_div_cancel _ hpos, Nat.mul_mod_left, hf _ _ _ hpos]
    have hwhole := isInteger_signedWhole negative hk
    rwa [signed_natAbs hsign] at hwhole

theorem IsInteger.wholeOf (h : IsInteger x k) : IsInteger (wholeOf x) k :=
  h.replaceWhole fun _ _ _ _ => rfl

/-- It is cut to itself, as far as a machine word goes. -/
theorem IsInteger.toWord_eq (h : IsInteger x k) (hlow : -2 ^ 63 ≤ k) (hhigh : k < 2 ^ 63) :
    toWord x = k := by
  obtain ⟨negative, m, e, hread, hsign, hvalue⟩ := h
  have hcut : (if 0 ≤ e then m * twoTo e.toNat else m / twoTo (-e).toNat) = k.natAbs := by
    rw [twoTo_eq, twoTo_eq]
    exact magnitude_eq hvalue
  have hmost : ((twoTo 63 : Nat) : Int) = 2 ^ 63 := by rw [twoTo_eq]; norm_num
  unfold toWord truncateWithin
  rw [hread]
  dsimp only
  rw [hcut, hmost, signed_natAbs hsign]
  omega

end Integers

/-! ## 2. Whole parts -/

/-- The double is a number from zero on, and `n` is its whole part. -/
def HasWholePart (x : Float) (n : Nat) : Prop :=
  ∃ negative m e, Binary.ofFloat x = .finite negative m e ∧ (negative = true → m = 0) ∧
    magnitude m e = n

section WholeParts

variable {x y : Float} {k n m : Nat} {e : Int}

theorem IsInteger.hasWholePart (h : IsInteger x n) : HasWholePart x n := by
  obtain ⟨negative, m, e, hread, hsign, hvalue⟩ := h
  rw [Int.natAbs_natCast] at hvalue
  refine ⟨negative, m, e, hread, fun hnegative => ?_, magnitude_eq hvalue⟩
  by_cases h0 : n = 0
  · rw [h0, Nat.zero_mul] at hvalue
    exact (Nat.mul_eq_zero.mp hvalue).resolve_right (by positivity)
  · have := (hsign (by omega)).mp hnegative
    omega

/-- A significand has 53 bits unless the exponent is the least one. -/
theorem normal_of_ofFloat {negative : Bool} (h : Binary.ofFloat x = .finite negative m e) :
    e = -1074 ∨ 2 ^ 52 ≤ m := by
  unfold Binary.ofFloat Binary.ofBits at h
  dsimp only at h
  split at h
  · split at h <;> cases h
  · split at h
    · cases h
      exact .inl rfl
    · cases h
      rw [twoTo_eq 52]
      exact .inr (Nat.le_add_left _ _)

/-- Exponent and significand are compared as the numbers that they make up. -/
theorem compare_leading_eq_lt_iff (hm : m < 2 ^ 53) (hnormal : e = -1074 ∨ 2 ^ 52 ≤ m)
    (h0 : k ≠ 0) (hk : k < 2 ^ 53) :
    (compare e (leadingExponent k)).then (compare m (leading k)) = .lt ↔ magnitude m e < k := by
  obtain ⟨hlow, hhigh⟩ := leadingExponent_bounds h0 hk
  have hmoved := leadingExponent_eq_neg h0 hk
  have hlog := log2_le h0 hk
  have hself := Nat.log2_self_le h0
  have hself' := @Nat.lt_log2_self k
  rw [Ordering.then_eq_lt, Int.compare_eq_lt, Int.compare_eq_eq, Nat.compare_eq_lt]
  unfold magnitude
  rcases Int.lt_trichotomy e (leadingExponent k) with hless | rfl | hgreater
  · rw [if_neg (by omega), Nat.div_lt_iff_lt_mul (by positivity)]
    have hpow : 2 ^ 53 ≤ 2 ^ k.log2 * 2 ^ (-e).toNat := by
      rw [← Nat.pow_add]
      exact Nat.pow_le_pow_right (by decide) (by omega)
    have hscaled := Nat.mul_le_mul_right (2 ^ (-e).toNat) hself
    exact ⟨fun _ => by omega, fun _ => .inl hless⟩
  · have hdiv : (if 0 ≤ leadingExponent k then m * 2 ^ (leadingExponent k).toNat
        else m / 2 ^ (-leadingExponent k).toNat) < k ↔ m < leading k := by
      split
      · have hzero : leadingExponent k = 0 := by omega
        rw [leading, hzero, show 52 - k.log2 = 0 by omega]
        simp
      · rw [Nat.div_lt_iff_lt_mul (by positivity), leading,
          show (-leadingExponent k).toNat = 52 - k.log2 by omega]
    rw [hdiv]
    simp
  · have hlarge : 2 ^ 52 ≤ m := hnormal.resolve_left (by omega)
    have hpow : 2 ^ (k.log2 + 1) ≤ if 0 ≤ e then m * 2 ^ e.toNat else m / 2 ^ (-e).toNat := by
      split
      · calc 2 ^ (k.log2 + 1) ≤ 2 ^ 52 * 2 ^ e.toNat := by
              rw [← Nat.pow_add]
              exact Nat.pow_le_pow_right (by decide) (by omega)
          _ ≤ m * 2 ^ e.toNat := Nat.mul_le_mul_right _ hlarge
      · rw [Nat.le_div_iff_mul_le (by positivity)]
        calc 2 ^ (k.log2 + 1) * 2 ^ (-e).toNat ≤ 2 ^ 52 := by
              rw [← Nat.pow_add]
              exact Nat.pow_le_pow_right (by decide) (by omega)
          _ ≤ m := hlarge
    omega

/-- Such a number is a zero or positive. -/
theorem HasWholePart.unpack_cases (h : HasWholePart x n) :
    n = 0 ∧ (∃ s, x.toModel.unpack = .zero s) ∨
      ∃ m e hm, x.toModel.unpack = .finite .positive m e hm ∧ m < 2 ^ 53 ∧
        (e = -1074 ∨ 2 ^ 52 ≤ m) ∧ magnitude m e = n := by
  obtain ⟨negative, m, e, hread, hnegative, hvalue⟩ := h
  obtain ⟨hbound, -⟩ := bounds_of_ofFloat hread
  have hnormal := normal_of_ofFloat hread
  rw [ofFloat_eq] at hread
  cases hunpack : x.toModel.unpack with
  | notANumber =>
    rw [hunpack] at hread
    cases hread
  | infinity s =>
    rw [hunpack] at hread
    cases hread
  | zero s =>
    rw [hunpack] at hread
    cases hread
    refine .inl ⟨?_, s, rfl⟩
    rw [← hvalue, magnitude, if_neg (by decide), Nat.zero_div]
  | finite s m' e' hm =>
    rw [hunpack] at hread
    cases hread
    cases s with
    | positive => exact .inr ⟨m, e, hm, rfl, hbound, hnormal, hvalue⟩
    | negative => exact absurd (hnegative rfl) hm.ne'

theorem le_iff_compare :
    x ≤ y ↔ (x.toModel.unpack.compare y.toModel.unpack).any Ordering.isLE = true := by
  show Float.le x y = true ↔ _
  exact decide_eq_true_iff

theorem le_iff_not_lt (hx : x.isNaN = false) (hy : y.isNaN = false) : x ≤ y ↔ ¬ y < x := by
  rw [le_iff_compare, lt_iff_compare, Place.compare_ofUnpacked hx hy,
    Place.compare_ofUnpacked hy hx,
    Std.OrientedOrd.eq_swap (a := Place.ofUnpacked y.toModel.unpack)]
  cases compare (Place.ofUnpacked x.toModel.unpack) (Place.ofUnpacked y.toModel.unpack) <;> decide

/-- What is not below one is not below zero. -/
theorem zero_le_of_one_le (h : 1 ≤ x) : 0 ≤ x := by
  have hx : x.isNaN = false := by
    by_contra hnan
    rw [le_iff_compare, unpack_of_isNaN (x := x) (Bool.eq_true_of_not_eq_false hnan),
      compare_notANumber] at h
    cases h
  have hone : (compare (Place.ofNumber 0) (Place.ofNumber 1)).isLE = true := rfl
  rw [le_iff_compare, Place.compare_ofUnpacked rfl hx] at h ⊢
  exact Std.TransOrd.isLE_trans hone h

/-- What lies between zero and some number is finite. -/
theorem isFinite_of_lt (hlow : 0 ≤ x) (hhigh : x < y) : x.isFinite = true := by
  show x.toModel.unpack.isFinite = true
  rw [le_iff_compare, unpack_zero] at hlow
  rw [lt_iff_compare] at hhigh
  cases hunpack : x.toModel.unpack with
  | notANumber =>
    rw [hunpack] at hhigh
    cases hhigh
  | infinity s =>
    rw [hunpack] at hlow hhigh
    cases s with
    | negative => cases hlow
    | positive => cases hy : y.toModel.unpack with
      | infinity s' =>
        rw [hy] at hhigh
        cases s' <;> cases hhigh
      | _ =>
        rw [hy] at hhigh
        cases hhigh
  | zero s => rfl
  | finite s m e hm => rfl

theorem isNaN_of_isFinite (h : x.isFinite = true) : x.isNaN = false := by
  have hmodel : x.toModel.unpack.isFinite = true := h
  show x.toModel.unpack.isNaN = false
  cases hunpack : x.toModel.unpack <;> first | rfl | (rw [hunpack] at hmodel; cases hmodel)

/-- A finite number from zero on has a whole part. -/
theorem exists_hasWholePart (hfinite : x.isFinite = true) (h : 0 ≤ x) : ∃ n, HasWholePart x n := by
  have hread := ofFloat_eq x
  have hmodel : x.toModel.unpack.isFinite = true := hfinite
  rw [le_iff_not_lt rfl (isNaN_of_isFinite hfinite), lt_iff_compare, unpack_zero] at h
  cases hunpack : x.toModel.unpack with
  | notANumber =>
    rw [hunpack] at hmodel
    cases hmodel
  | infinity s =>
    rw [hunpack] at hmodel
    cases hmodel
  | zero s =>
    rw [hunpack] at hread
    exact ⟨_, _, _, _, hread, fun _ => rfl, rfl⟩
  | finite s m e hm =>
    rw [hunpack] at hread h
    cases s with
    | positive => exact ⟨_, _, _, _, hread, nofun, rfl⟩
    | negative => exact absurd rfl h

theorem HasWholePart.isNaN_eq (h : HasWholePart x n) : x.isNaN = false := by
  have hmodel : x.isNaN = x.toModel.unpack.isNaN := rfl
  rcases h.unpack_cases with ⟨-, s, hzero⟩ | ⟨m, e, hm, hunpack, -⟩
  · rw [hmodel, hzero]
    rfl
  · rw [hmodel, hunpack]
    rfl

theorem HasWholePart.isFinite_eq (h : HasWholePart x n) : x.isFinite = true := by
  have hmodel : x.isFinite = x.toModel.unpack.isFinite := rfl
  rcases h.unpack_cases with ⟨-, s, hzero⟩ | ⟨m, e, hm, hunpack, -⟩
  · rw [hmodel, hzero]
    rfl
  · rw [hmodel, hunpack]
    rfl

/-- **A number is below a natural number if its whole part is.** -/
theorem HasWholePart.lt_ofNat_iff (h : HasWholePart x n) (hk : k < 2 ^ 53) :
    x < Float.ofNat k ↔ n < k := by
  rw [lt_iff_compare]
  rcases h.unpack_cases with ⟨rfl, s, hzero⟩ | ⟨m, e, hm, hunpack, hbound, hnormal, rfl⟩
  · rw [hzero]
    by_cases h0 : k = 0
    · subst h0
      exact ⟨nofun, fun hless => absurd hless (Nat.lt_irrefl 0)⟩
    · rw [unpack_ofNat h0 hk]
      exact ⟨fun _ => by omega, fun _ => rfl⟩
  · rw [hunpack]
    by_cases h0 : k = 0
    · subst h0
      exact ⟨nofun, fun hless => absurd hless (Nat.not_lt_zero _)⟩
    · rw [unpack_ofNat h0 hk, ← compare_leading_eq_lt_iff hbound hnormal h0 hk]
      exact Option.some_inj

theorem HasWholePart.ofNat_le_iff (h : HasWholePart x n) (hk : k < 2 ^ 53) :
    Float.ofNat k ≤ x ↔ k ≤ n := by
  rw [le_iff_not_lt (isNaN_ofNat hk) h.isNaN_eq, h.lt_ofNat_iff hk, Nat.not_lt]

/-- The greatest integer not above such a number is its whole part. -/
theorem HasWholePart.floorOf (h : HasWholePart x n) (hn : n < 2 ^ 53) :
    IsInteger (floorOf x) n := by
  obtain ⟨negative, m, e, hread, hnegative, hwhole⟩ := h
  unfold Gridcalc.floorOf replaceWhole
  rw [hread]
  unfold magnitude at hwhole
  dsimp only
  split
  · rename_i he
    rw [if_pos he] at hwhole
    refine ⟨negative, m, e, hread, fun hne => ⟨fun hminus => ?_, fun hless => by omega⟩, ?_⟩
    · rw [hnegative hminus, Nat.zero_mul] at hwhole
      omega
    · rw [show (-e).toNat = 0 by omega, Nat.pow_zero, Nat.mul_one, hwhole, Int.natAbs_natCast]
  · rename_i he
    rw [if_neg he] at hwhole
    rw [twoTo_eq, hwhole]
    cases negative with
    | false => exact isInteger_signedWhole false hn
    | true =>
      obtain rfl : n = 0 := by rw [← hwhole, hnegative rfl, Nat.zero_div]
      rw [hnegative rfl, Nat.zero_mod]
      exact isInteger_signedWhole true hn

end WholeParts
end Gridcalc
