import Gridcalc.Builtin.Argument
import Gridcalc.Proofs.Number.Places
import Gridcalc.Proofs.Number.Sums

/-!
# Whole numbers

Doubles that are whole numbers from zero on, however large, as lengths and places are given. The
natural numbers below `2 ^ 53` are among them, and so is the zero with a minus.

* `Binary.ofUnpacked`, `ofFloat_eq`: what the bits of a double say is what it is unpacked to;
* `magnitude`, `magnitude_eq`: what a significand with an exponent is cut to, for a whole number the
  number itself;
* `IsNatural`: the double is a natural number;
* `IsNatural.wholeOf`, `IsNatural.toCount_eq`: such a number is whole already, and is cut to itself as
  far as a machine word goes;
* `Builtin.countAt_eq`, `Builtin.placeAt_eq`: **lengths and places as the functions of texts read
  them**.
-/

namespace Gridcalc

open Float.Model Float.Model.UnpackedFloat

/-! ## 1. Two readings of the bits -/

/-- The reading of an unpacked number. Zeros have the exponent of the smallest numbers. -/
def Binary.ofUnpacked : UnpackedFloat → Binary
  | .notANumber => .notANumber
  | .infinity s => .infinite (s == .negative)
  | .zero s => .finite (s == .negative) 0 (-1074)
  | .finite s m e _ => .finite (s == .negative) m e

section Bits

theorem toNat_unpackExponent (b : BitVec Format.binary64.numBits) :
    (unpackExponent b).toNat = b.toNat / 2 ^ 52 % 2 ^ 11 := by
  unfold unpackExponent
  rw [BitVec.toNat_cast, BitVec.extractLsb, BitVec.extractLsb'_toNat, Nat.shiftRight_eq_div_pow]
  rfl

theorem toNat_unpackMantissa (b : BitVec Format.binary64.numBits) :
    (unpackMantissa b).toNat = b.toNat % 2 ^ 52 := by
  unfold unpackMantissa
  rw [BitVec.toNat_cast, BitVec.extractLsb, BitVec.extractLsb'_toNat, Nat.shiftRight_zero]
  rfl

theorem toNat_unpackSign (b : BitVec Format.binary64.numBits) :
    (unpackSign b).toNat = b.toNat / 2 ^ 63 % 2 := by
  unfold unpackSign
  rw [BitVec.toNat_cast, BitVec.extractLsb, BitVec.extractLsb'_toNat, Nat.shiftRight_eq_div_pow]
  rfl

theorem sign_unpackSign (b : BitVec Format.binary64.numBits) :
    (Sign.ofBitVec (unpackSign b) == .negative) = decide (2 ^ 63 ≤ b.toNat) := by
  have hbits : b.toNat < 2 ^ 64 := b.isLt
  have hsign := toNat_unpackSign b
  unfold Sign.ofBitVec
  split
  · rename_i hzero
    rw [hzero] at hsign
    change 0 = _ at hsign
    rw [decide_eq_false (by omega)]
    rfl
  · rename_i hone
    have hne : (unpackSign b).toNat ≠ 0 := fun h => hone (BitVec.eq_of_toNat_eq h)
    rw [decide_eq_true (by omega)]
    rfl

end Bits

/-- **The bits of a double say what it is unpacked to.** -/
theorem ofFloat_eq (x : Float) : Binary.ofFloat x = .ofUnpacked x.toModel.unpack := by
  let b : BitVec Format.binary64.numBits := x.toModel.toBits.toBitVec
  have hones : (unpackExponent b).toNat = 2047 ↔ unpackExponent b = -1#_ := by
    rw [← BitVec.toNat_inj]
    rfl
  have hfirst : (unpackExponent b).toNat = 0 ↔ unpackExponent b = 0#_ := by
    rw [← BitVec.toNat_inj]
    rfl
  have hnone : (unpackMantissa b).toNat = 0 ↔ unpackMantissa b = 0#_ := by
    rw [← BitVec.toNat_inj]
    rfl
  have himplicit : (1#1 ++ unpackMantissa b).toNat = (unpackMantissa b).toNat + 2 ^ 52 := by
    rw [BitVec.toNat_append, ← Nat.shiftLeft_add_eq_or_of_lt (BitVec.isLt _), Nat.add_comm]
    rfl
  show Binary.ofBits b.toNat = .ofUnpacked (UnpackedFloat.unpack .binary64 b)
  unfold Binary.ofBits UnpackedFloat.unpack
  dsimp only
  rw [twoTo_eq, twoTo_eq, twoTo_eq, ← toNat_unpackExponent, ← toNat_unpackMantissa,
    ← sign_unpackSign, bias_binary64]
  simp only [hones, hfirst, hnone]
  by_cases hspecial : unpackExponent b = -1#_
  · rw [if_pos hspecial, if_pos hspecial]
    by_cases hfraction : unpackMantissa b = 0#_
    · rw [if_pos hfraction, if_pos hfraction, Binary.ofUnpacked]
    · rw [if_neg hfraction, if_neg hfraction, Binary.ofUnpacked]
  · rw [if_neg hspecial, if_neg hspecial]
    by_cases hsmall : unpackExponent b = 0#_
    · rw [if_pos hsmall, if_pos hsmall]
      by_cases hfraction : unpackMantissa b = 0#_
      · rw [dif_pos hfraction, Binary.ofUnpacked, hnone.mpr hfraction]
      · rw [dif_neg hfraction, Binary.ofUnpacked, hfirst.mpr hsmall]
        rfl
    · rw [if_neg hsmall, if_neg hsmall, Binary.ofUnpacked, himplicit]

/-- A significand has 53 bits at most, and the exponents are those of the bits. -/
theorem bounds_of_ofFloat {x : Float} {negative : Bool} {m : Nat} {e : Int}
    (h : Binary.ofFloat x = .finite negative m e) : m < 2 ^ 53 ∧ -1074 ≤ e ∧ e ≤ 971 := by
  unfold Binary.ofFloat Binary.ofBits at h
  have hfraction : x.toBits.toNat % twoTo 52 < 2 ^ 52 := Nat.mod_lt _ (by decide)
  have hfield : x.toBits.toNat / twoTo 52 % twoTo 11 < 2 ^ 11 := Nat.mod_lt _ (by decide)
  dsimp only at h
  split at h
  · split at h <;> cases h
  · split at h
    · cases h
      omega
    · cases h
      rw [twoTo_eq 52] at *
      omega

/-! ## 2. Natural numbers among the doubles -/

/-- The natural number that a significand with an exponent is cut to. -/
def magnitude (m : Nat) (e : Int) : Nat := if 0 ≤ e then m * 2 ^ e.toNat else m / 2 ^ (-e).toNat

section Cutting

variable {m n : Nat} {e : Int}

/-- At a negative exponent, a whole number has that many places of its significand to spare. -/
theorem significand_eq (h : m * 2 ^ e.toNat = n * 2 ^ (-e).toNat) (he : ¬0 ≤ e) :
    m = n * 2 ^ (-e).toNat := by
  rwa [show e.toNat = 0 by omega, Nat.pow_zero, Nat.mul_one] at h

/-- A whole number is cut to itself. -/
theorem magnitude_eq (h : m * 2 ^ e.toNat = n * 2 ^ (-e).toNat) : magnitude m e = n := by
  unfold magnitude
  split
  · rename_i he
    rwa [show (-e).toNat = 0 by omega, Nat.pow_zero, Nat.mul_one] at h
  · rename_i he
    rw [significand_eq h he, Nat.mul_div_cancel _ (by positivity)]

/-- The number that an exponent is scaled from is no greater than its significand. -/
theorem lt_of_significand_eq {bound : Nat} (h : m = n * 2 ^ (-e).toNat) (hm : m < bound) :
    n < bound :=
  Nat.lt_of_le_of_lt (h ▸ Nat.le_mul_of_pos_right n (by positivity)) hm

end Cutting

/-- The double is the natural number `k`. A zero may have a minus. -/
def IsNatural (x : Float) (k : Nat) : Prop :=
  ∃ negative m e, Binary.ofFloat x = .finite negative m e ∧ (negative = true → k = 0) ∧
    m * 2 ^ e.toNat = k * 2 ^ (-e).toNat

section Naturals

variable {x : Float} {k : Nat}

theorem isNatural_ofNat (h : k < 2 ^ 53) : IsNatural (Float.ofNat k) k := by
  obtain ⟨j, hj⟩ := exists_ofFloat_ofNat h
  refine ⟨false, _, _, hj, nofun, ?_⟩
  rw [Int.neg_neg, Int.toNat_natCast, Int.toNat_neg_natCast, Nat.pow_zero, Nat.mul_one]

theorem isNatural_negZero : IsNatural (-(Float.ofNat 0)) 0 := by
  refine ⟨true, 0, -1074, rfl, fun _ => rfl, ?_⟩
  rw [Nat.zero_mul, Nat.zero_mul]

/-- Such a number is a zero or positive. -/
theorem IsNatural.unpack_cases (h : IsNatural x k) :
    k = 0 ∧ (∃ s, x.toModel.unpack = .zero s) ∨
      ∃ m e hm, x.toModel.unpack = .finite .positive m e hm ∧ m < 2 ^ 53 ∧
        m * 2 ^ e.toNat = k * 2 ^ (-e).toNat := by
  obtain ⟨negative, m, e, hread, hnegative, hvalue⟩ := h
  obtain ⟨hbound, -⟩ := bounds_of_ofFloat hread
  rw [ofFloat_eq] at hread
  cases hunpack : x.toModel.unpack with
  | notANumber =>
    rw [hunpack] at hread
    cases hread
  | infinity s =>
    rw [hunpack] at hread
    cases hread
  | zero s =>
    rw [hunpack] at hread
    cases hread
    refine .inl ⟨?_, s, rfl⟩
    have hpos : 0 < 2 ^ (-(-1074 : Int)).toNat := by positivity
    rw [Nat.zero_mul] at hvalue
    exact (Nat.mul_eq_zero.mp hvalue.symm).resolve_right hpos.ne'
  | finite s m' e' hm =>
    rw [hunpack] at hread
    cases hread
    cases s with
    | positive => exact .inr ⟨m, e, hm, rfl, hbound, hvalue⟩
    | negative =>
      rw [hnegative rfl, Nat.zero_mul] at hvalue
      have hpos : 0 < m * 2 ^ e.toNat := by positivity
      exact absurd hvalue hpos.ne'

theorem IsNatural.not_lt_zero (h : IsNatural x k) : ¬x < 0 := by
  rw [lt_iff_compare, unpack_zero]
  rcases h.unpack_cases with ⟨-, s, hzero⟩ | ⟨m, e, hm, hfinite, -, -⟩
  · rw [hzero]
    exact nofun
  · rw [hfinite]
    exact nofun

theorem IsNatural.not_lt_one (h : IsNatural x k) (hk : 1 ≤ k) : ¬x < 1 := by
  have hone : (1 : Float).toModel.unpack = .finite .positive (2 ^ 52) (-52) (by decide) := rfl
  rw [lt_iff_compare, hone]
  rcases h.unpack_cases with ⟨hzero, -⟩ | ⟨m, e, hm, hfinite, hbound, hvalue⟩
  · omega
  · rw [hfinite]
    intro hless
    have hcompare : ((compare e (-52)).then (compare m (2 ^ 52))) = .lt := Option.some.inj hless
    -- One is the least number with 53 bits at its exponent, and no lower exponent will do.
    rcases Ordering.then_eq_lt.mp hcompare with hlow | ⟨hequal, hlow⟩
    · rw [Int.compare_eq_lt] at hlow
      have hmove : 2 ^ 53 ≤ 2 ^ (-e).toNat := Nat.pow_le_pow_right (by decide) (by omega)
      have hscaled : 2 ^ (-e).toNat ≤ k * 2 ^ (-e).toNat := Nat.le_mul_of_pos_left _ hk
      have hsignificand := significand_eq hvalue (by omega)
      omega
    · rw [Int.compare_eq_eq] at hequal
      rw [Nat.compare_eq_lt] at hlow
      subst hequal
      change m * 1 = k * 2 ^ 52 at hvalue
      omega

/-- Such a number is whole already. -/
theorem IsNatural.wholeOf (h : IsNatural x k) : IsNatural (wholeOf x) k := by
  obtain ⟨negative, m, e, hread, hnegative, hvalue⟩ := h
  unfold Gridcalc.wholeOf replaceWhole
  rw [hread]
  dsimp only
  split
  · exact ⟨negative, m, e, hread, hnegative, hvalue⟩
  · rename_i he
    obtain ⟨hbound, -⟩ := bounds_of_ofFloat hread
    have hsignificand := significand_eq hvalue he
    have hk : k < 2 ^ 53 := lt_of_significand_eq hsignificand hbound
    rw [twoTo_eq, hsignificand, Nat.mul_div_cancel k (by positivity)]
    cases negative with
    | false => exact isNatural_ofNat hk
    | true =>
      rw [hnegative rfl]
      exact isNatural_negZero

/-- It is cut to itself, as far as a machine word goes. -/
theorem IsNatural.toCount_eq (h : IsNatural x k) : toCount x = min k (2 ^ 64 - 1) := by
  obtain ⟨negative, m, e, hread, hnegative, hvalue⟩ := h
  have hcut : (if 0 ≤ e then m * twoTo e.toNat else m / twoTo (-e).toNat) = k := by
    rw [twoTo_eq, twoTo_eq]
    exact magnitude_eq hvalue
  have hmost : ((twoTo 64 : Nat) : Int) = 2 ^ 64 := by rw [twoTo_eq]; norm_num
  unfold toCount truncateWithin
  rw [hread]
  dsimp only
  rw [hcut, hmost]
  cases negative with
  | false =>
    rw [if_neg Bool.false_ne_true]
    omega
  | true =>
    rw [hnegative rfl]
    rfl

end Naturals

/-! ## 3. Lengths and places -/

namespace Builtin

section Reading

variable {args : List Arg} {i n : Nat} {x default : Float}

/-- **A length is what it says**, as far as a machine word goes. -/
theorem countAt_eq (hx : numberAtOr args i default = .ok x) (h : IsNatural x n) :
    countAt args i default = .ok (min n (2 ^ 64 - 1)) := by
  unfold countAt
  rw [hx]
  show (if wholeOf x < 0 then .refuse .value else .ok (toCount (wholeOf x)) : Outcome Nat) = _
  rw [if_neg h.wholeOf.not_lt_zero, h.wholeOf.toCount_eq]

/-- **A place is the one after as many characters as it says, less one.** -/
theorem placeAt_eq (hx : numberAtOr args i default = .ok x) (h : IsNatural x (n + 1)) :
    placeAt args i default = .ok (min n (2 ^ 64 - 2)) := by
  have hplace : placeBefore (min (n + 1) (2 ^ 64 - 1)) = min n (2 ^ 64 - 2) := by
    unfold placeBefore
    rw [if_neg (by omega)]
    omega
  unfold placeAt
  rw [hx]
  show (if wholeOf x < 1 then .refuse .value
    else .ok (placeBefore (toCount (wholeOf x))) : Outcome Nat) = _
  rw [if_neg (h.wholeOf.not_lt_one (by omega)), h.wholeOf.toCount_eq, hplace]

end Reading

end Builtin

end Gridcalc
