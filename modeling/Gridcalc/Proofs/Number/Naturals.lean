import Gridcalc.Proofs.Address.Spelling
import Gridcalc.Value.NumberText
import Mathlib

/-!
# Natural numbers as doubles

A natural number below `2 ^ 53` is a double without rounding.

* `leading`, `leadingExponent`: its significand, which is the number moved up until it has 53 bits,
  and the exponent that makes up for the move;
* `roundWithAccuracy_exact`, `unpack_pack_normal`: such a significand is neither rounded nor changed
  by being packed;
* `toModel_ofNat`, `ofFloat_ofNat`: the double of a natural number, and what its bits say;
* `read?_naturalText`, `showNumber_ofNat`: **digits are read as the number that they spell, and the
  number is shown by its digits**.
-/

namespace Gridcalc

open Float.Model Float.Model.UnpackedFloat

/-! ## 1. Significands of 53 bits -/

/-- A natural number moved up until it has 53 bits. -/
def leading (k : Nat) : Nat := k * 2 ^ (52 - k.log2)

/-- The exponent that makes up for the move. -/
def leadingExponent (k : Nat) : Int := (k.log2 : Int) - 52

theorem twoTo_eq (n : Nat) : twoTo n = 2 ^ n := rfl

section Rounding

variable {m k j : Nat} {e : Int} {s : Sign}

theorem targetExponent_binary64 (t : Int) :
    Format.binary64.targetExponent t = max (t - 53) (-1074) := rfl

theorem log2_mul_two_pow (hm : m ≠ 0) (j : Nat) : (m * 2 ^ j).log2 = m.log2 + j := by
  rw [Nat.log2_eq_iff (by positivity), Nat.pow_add, Nat.add_right_comm, Nat.pow_add _ _ j]
  have hlow := Nat.log2_self_le hm
  have hhigh := @Nat.lt_log2_self m
  exact ⟨Nat.mul_le_mul_right _ hlow, Nat.mul_lt_mul_of_pos_right hhigh (by positivity)⟩

/-- Shifting out zeros loses nothing. -/
theorem shiftRight_exact (m j : Nat) :
    (⟨m * 2 ^ j, false, false⟩ : ExtendedMantissa) >>> j = ⟨m, false, false⟩ := by
  induction j generalizing m with
  | zero => simp [HShiftRight.hShiftRight, Nat.repeat]
  | succ j ih =>
    have hstep : (⟨m * 2 ^ (j + 1), false, false⟩ : ExtendedMantissa) >>> (j + 1) =
        ((⟨m * 2 * 2 ^ j, false, false⟩ : ExtendedMantissa) >>> j).shiftRightOne := by
      rw [Nat.mul_assoc, ← Nat.pow_succ']
      rfl
    rw [hstep, ih, ExtendedMantissa.shiftRightOne]
    simp

theorem shiftToTargetExponent_exact (hm : m.log2 = 52) (he : -1074 ≤ e) (j : Nat) :
    shiftToTargetExponent Format.binary64 (m * 2 ^ j) (e - j) .exact =
      (⟨m, false, false⟩, e) := by
  have hne : m ≠ 0 := by
    rintro rfl
    simp at hm
  have htarget : Format.binary64.targetExponent (totalExponent (m * 2 ^ j) (e - j)) = e := by
    rw [targetExponent_binary64, totalExponent, log2_mul_two_pow hne, hm]
    omega
  have hshift : (e - (e - j)).toNat = j := by omega
  unfold shiftToTargetExponent shiftToExponent
  dsimp only
  rw [htarget, hshift, ExtendedMantissa.ofMantissaAndAccuracy, shiftRight_exact]
  simp

/-- A significand of 53 bits, zeros behind it aside, needs no rounding. -/
theorem roundWithAccuracy_exact (hm : m.log2 = 52) (he : -1074 ≤ e) (hpos : 0 < m) (j : Nat) :
    roundWithAccuracy Format.binary64 s (m * 2 ^ j) (e - j) .exact = .finite s m e hpos := by
  have hagain := shiftToTargetExponent_exact hm he 0
  rw [Nat.pow_zero, Nat.mul_one, Nat.cast_zero, Int.sub_zero] at hagain
  unfold roundWithAccuracy
  rw [shiftToTargetExponent_exact hm he j]
  dsimp only [ExtendedMantissa.roundedMantissa, ExtendedMantissa.accuracy,
    Accuracy.roundToNearestEven]
  rw [hagain]
  exact dif_neg hpos.ne'

end Rounding

/-! ## 2. Packed numbers -/

section Packing

variable {m : Nat} {e : Int} {s : Sign}

/-- What the bits add to an exponent. -/
theorem bias_binary64 : (Format.binary64.exponentBias : Int) +
    (Format.binary64.mantissaBitsWithoutImplicit : Nat) = 1075 := by
  decide

theorem biased_exponent (e : Int) :
    e + Format.binary64.exponentBias + (Format.binary64.mantissaBitsWithoutImplicit : Nat) =
      e + 1075 := by
  rw [Int.add_assoc, bias_binary64]

theorem pack_normal (hm : m.log2 = 52) (he : e < 972) (hpos : 0 < m) :
    UnpackedFloat.pack Format.binary64 (.finite s m e hpos) =
      packComponents Format.binary64 s (BitVec.ofNat 11 (e + 1075).toNat)
        (BitVec.ofNat 52 m) := by
  unfold UnpackedFloat.pack
  dsimp only
  rw [biased_exponent, if_neg, if_pos]
  · rw [hm]
    rfl
  · show ¬ 2 ^ 11 ≤ (e + 1075).toNat + 1
    omega

theorem implicit_bit (hm : m.log2 = 52) : (1#1 ++ BitVec.ofNat 52 m).toNat = m := by
  have hne : m ≠ 0 := by
    rintro rfl
    simp at hm
  obtain ⟨hlow, hhigh⟩ := (Nat.log2_eq_iff hne).mp hm
  rw [BitVec.toNat_append, ← Nat.shiftLeft_add_eq_or_of_lt (BitVec.isLt _), BitVec.toNat_ofNat]
  show 2 ^ 52 + m % 2 ^ 52 = m
  omega

/-- Normal numbers are unpacked again. -/
theorem unpack_pack_normal (hm : m.log2 = 52) (hlow : -1075 < e) (hhigh : e < 972) (hpos : 0 < m) :
    (Float.Model.pack (.finite s m e hpos)).unpack = .finite s m e hpos := by
  have hfield : (BitVec.ofNat 11 (e + 1075).toNat).toNat = (e + 1075).toNat := by
    rw [BitVec.toNat_ofNat]
    omega
  have hones : BitVec.ofNat 11 (e + 1075).toNat ≠ -1#_ := by
    intro h
    have h := congrArg BitVec.toNat h
    rw [hfield] at h
    change _ = 2047 at h
    omega
  have hzero : BitVec.ofNat 11 (e + 1075).toNat ≠ 0#_ := by
    intro h
    have h := congrArg BitVec.toNat h
    rw [hfield] at h
    change _ = 0 at h
    omega
  show UnpackedFloat.unpack Format.binary64 (UnpackedFloat.pack Format.binary64 _) = _
  rw [pack_normal hm hhigh]
  unfold UnpackedFloat.unpack
  dsimp only
  simp only [unpackMantissa_packComponents, unpackExponent_packComponents,
    unpackSign_packComponents, Sign.ofBitVec_toBitVec, hones, hzero, if_false, implicit_bit hm,
    hfield]
  congr 1
  rw [bias_binary64]
  omega

/-- The bits of a normal number. -/
theorem toNat_pack_normal (hm : m.log2 = 52) (hlow : -1075 < e) (hhigh : e < 972) (hpos : 0 < m) :
    (Float.Model.pack (.finite .positive m e hpos)).toBits.toNat =
      m + (e + 1074).toNat * 2 ^ 52 := by
  obtain ⟨hleft, hright⟩ := (Nat.log2_eq_iff hpos.ne').mp hm
  show (UnpackedFloat.pack Format.binary64 _).toNat = _
  rw [pack_normal hm hhigh, packComponents, BitVec.toNat_append,
    ← Nat.shiftLeft_add_eq_or_of_lt (BitVec.isLt _), BitVec.toNat_append,
    ← Nat.shiftLeft_add_eq_or_of_lt (BitVec.isLt _), BitVec.toNat_ofNat, BitVec.toNat_ofNat]
  show (0 <<< 11 + (e + 1075).toNat % 2 ^ 11) <<< 52 + m % 2 ^ 52 = _
  rw [Nat.shiftLeft_eq, Nat.shiftLeft_eq]
  omega

end Packing

/-! ## 3. Natural numbers -/

section Naturals

variable {k : Nat} {s : Sign}

theorem log2_le (h0 : k ≠ 0) (h : k < 2 ^ 53) : k.log2 ≤ 52 := by
  have hlog := (Nat.log2_lt h0).mpr h
  omega

theorem log2_leading (h0 : k ≠ 0) (h : k < 2 ^ 53) : (leading k).log2 = 52 := by
  have hlog := log2_le h0 h
  rw [leading, log2_mul_two_pow h0]
  omega

theorem leading_pos (h0 : k ≠ 0) : 0 < leading k := by
  unfold leading
  positivity

theorem leading_bounds (h0 : k ≠ 0) (h : k < 2 ^ 53) : 2 ^ 52 ≤ leading k ∧ leading k < 2 ^ 53 :=
  (Nat.log2_eq_iff (leading_pos h0).ne').mp (log2_leading h0 h)

theorem leadingExponent_bounds (h0 : k ≠ 0) (h : k < 2 ^ 53) :
    -52 ≤ leadingExponent k ∧ leadingExponent k ≤ 0 := by
  have hlog := log2_le h0 h
  unfold leadingExponent
  omega

theorem leadingExponent_eq_neg (h0 : k ≠ 0) (h : k < 2 ^ 53) :
    leadingExponent k = -((52 - k.log2 : Nat) : Int) := by
  have hlog := log2_le h0 h
  unfold leadingExponent
  omega

/-- A natural number with zeros behind it is moved until it has 53 bits. -/
theorem round_natural (h0 : k ≠ 0) (h : k < 2 ^ 53) (j : Nat) :
    UnpackedFloat.round .binary64 s (k * 2 ^ j) (-(j : Int)) =
      .finite s (leading k) (leadingExponent k) (leading_pos h0) := by
  have hlog := log2_le h0 h
  have hmoved := leadingExponent_eq_neg h0 h
  have htarget : Format.binary64.targetExponent (totalExponent (k * 2 ^ j) (-(j : Int))) =
      leadingExponent k := by
    rw [targetExponent_binary64, totalExponent, log2_mul_two_pow h0, hmoved]
    omega
  -- If there are more zeros than the move needs, it needs none, and the others are shifted out.
  have hmantissa : (k * 2 ^ j) <<< (-(j : Int) - leadingExponent k).toNat =
      leading k * 2 ^ (j - (52 - k.log2)) := by
    rw [Nat.shiftLeft_eq, leading, Nat.mul_assoc, Nat.mul_assoc, ← Nat.pow_add, ← Nat.pow_add]
    congr 2
    omega
  have hexponent : -(j : Int) - (-(j : Int) - leadingExponent k).toNat =
      leadingExponent k - (j - (52 - k.log2) : Nat) := by
    omega
  rw [UnpackedFloat.round, htarget, decreaseExponent, hmantissa, hexponent]
  exact roundWithAccuracy_exact (log2_leading h0 h) (by omega) (leading_pos h0) _

/-- A machine word that is a natural number is moved up and not rounded. -/
theorem ofUInt64_natural (h0 : k ≠ 0) (h : k < 2 ^ 53) :
    UnpackedFloat.ofUInt64 Format.binary64 k.toUInt64 =
      .finite .positive (leading k) (leadingExponent k) (leading_pos h0) := by
  have hword : k.toUInt64.toNat = k := by
    rw [Nat.toUInt64, UInt64.toNat_ofNat']
    omega
  have hpositive : compare (k : Int) 0 = .gt := by
    rw [Int.compare_eq_gt]
    omega
  have hround := round_natural (s := .positive) h0 h 0
  rw [Nat.pow_zero, Nat.mul_one, Nat.cast_zero, Int.neg_zero] at hround
  unfold UnpackedFloat.ofUInt64 UnpackedFloat.ofNat UnpackedFloat.ofInt UnpackedFloat.normalize
  rw [hword, hpositive]
  exact hround

/-- The double of a natural number. -/
theorem toModel_ofNat (h0 : k ≠ 0) (h : k < 2 ^ 53) : (Float.ofNat k).toModel =
    .pack (.finite .positive (leading k) (leadingExponent k) (leading_pos h0)) := by
  have hlead := log2_leading h0 h
  obtain ⟨hlow, hhigh⟩ := leadingExponent_bounds h0 h
  have hone : (Float.exactlyRepresentablePowersOfTen[0]).toModel.unpack =
      .finite .positive (2 ^ 52) (-52) (by decide) := by
    rfl
  have hfast : Float.ofNat k = k.toUInt64.toFloat * Float.exactlyRepresentablePowersOfTen[0] :=
    dif_pos ⟨h, by decide⟩
  rw [hfast]
  show Float.Model.pack (UnpackedFloat.mul Format.binary64
    (Float.Model.pack (UnpackedFloat.ofUInt64 _ _)).unpack _) = _
  rw [ofUInt64_natural h0 h, unpack_pack_normal hlead (by omega) (by omega), hone]
  exact congrArg Float.Model.pack
    (roundWithAccuracy_exact hlead (by omega) (leading_pos h0) 52)

theorem unpack_ofNat (h0 : k ≠ 0) (h : k < 2 ^ 53) : (Float.ofNat k).toModel.unpack =
    .finite .positive (leading k) (leadingExponent k) (leading_pos h0) := by
  obtain ⟨hlow, hhigh⟩ := leadingExponent_bounds h0 h
  rw [toModel_ofNat h0 h, unpack_pack_normal (log2_leading h0 h) (by omega) (by omega)]

/-- The bits of a natural number. -/
theorem toBits_ofNat (h0 : k ≠ 0) (h : k < 2 ^ 53) :
    (Float.ofNat k).toBits.toNat = leading k + (k.log2 + 1022) * 2 ^ 52 := by
  obtain ⟨hlow, hhigh⟩ := leadingExponent_bounds h0 h
  have hmodel : (Float.ofNat k).toBits = (Float.ofNat k).toModel.toBits := rfl
  have hfield : (leadingExponent k + 1074).toNat = k.log2 + 1022 := by
    unfold leadingExponent
    omega
  rw [hmodel, toModel_ofNat h0 h, toNat_pack_normal (log2_leading h0 h) (by omega) (by omega),
    hfield]

/-- **A natural number is read off its bits exactly.** -/
theorem ofFloat_ofNat (h0 : k ≠ 0) (h : k < 2 ^ 53) :
    Binary.ofFloat (Float.ofNat k) = .finite false (leading k) (leadingExponent k) := by
  have hlog := log2_le h0 h
  obtain ⟨hlow, hhigh⟩ := leading_bounds h0 h
  unfold Binary.ofFloat Binary.ofBits
  rw [toBits_ofNat h0 h, twoTo_eq, twoTo_eq, twoTo_eq]
  have hfield : (leading k + (k.log2 + 1022) * 2 ^ 52) / 2 ^ 52 % 2 ^ 11 = k.log2 + 1023 := by omega
  have hfraction : (leading k + (k.log2 + 1022) * 2 ^ 52) % 2 ^ 52 + 2 ^ 52 = leading k := by omega
  have hsign : ¬ 2 ^ 63 ≤ leading k + (k.log2 + 1022) * 2 ^ 52 := by omega
  dsimp only
  rw [hfield, hfraction, if_neg (by omega), if_neg (by omega), decide_eq_false hsign]
  refine congrArg (Binary.finite false (leading k)) ?_
  unfold leadingExponent
  omega

theorem stepExponent_natural (h0 : k ≠ 0) (h : k < 2 ^ 53) :
    Binary.stepExponent k 1 = leadingExponent k := by
  have hlog := log2_le h0 h
  have hlow := Nat.log2_self_le h0
  unfold Binary.stepExponent leadingExponent
  have hone : Nat.log2 1 = 0 := by decide
  have hguess : max ((k.log2 : Int) - (Nat.log2 1 : Nat) - 53) (-1074) = k.log2 - 53 := by
    rw [hone]
    omega
  have hneg : (-((k.log2 : Int) - 53)).toNat = 53 - k.log2 := by omega
  have hpos : ((k.log2 : Int) - 53).toNat = 0 := by omega
  dsimp only
  rw [hguess, hneg, hpos, if_neg]
  · omega
  · have hexponent : k.log2 + (53 - k.log2) = 53 := by omega
    have hpow : 2 ^ 53 = 2 ^ k.log2 * 2 ^ (53 - k.log2) := by
      rw [← Nat.pow_add, hexponent]
    rw [twoTo_eq, twoTo_eq, twoTo_eq, Nat.pow_zero, Nat.one_mul, Nat.div_one, hpow]
    exact Nat.not_lt.mpr (Nat.mul_le_mul_right _ hlow)

/-- The double nearest to a natural number is that number. -/
theorem nearest_natural (h : k < 2 ^ 53) : Binary.nearest false k 1 = Float.ofNat k := by
  by_cases h0 : k = 0
  · subst h0
    rfl
  have hlog := log2_le h0 h
  obtain ⟨hlow, hhigh⟩ := leading_bounds h0 h
  have hmoved := leadingExponent_eq_neg h0 h
  have hneg : (-leadingExponent k).toNat = 52 - k.log2 := by omega
  have hpos : (leadingExponent k).toNat = 0 := by omega
  have hfield : (leadingExponent k + 1074).toNat = k.log2 + 1022 := by omega
  have hbits : Binary.nearestBits k 1 = (Float.ofNat k).toBits.toNat := by
    have hround := Binary.roundHalfEven_mul (leading k) Nat.one_pos
    rw [Nat.mul_one] at hround
    unfold Binary.nearestBits
    rw [if_neg h0, stepExponent_natural h0 h, toBits_ofNat h0 h]
    dsimp only
    rw [hneg, hpos, hfield, twoTo_eq, twoTo_eq, twoTo_eq, Nat.pow_zero, Nat.one_mul, ← leading,
      hround]
    omega
  unfold Binary.nearest
  rw [hbits, if_neg Bool.false_ne_true, Nat.add_zero]
  have hword : (Float.ofNat k).toBits.toNat.toUInt64 = (Float.ofNat k).toBits :=
    UInt64.ofNat_toNat
  rw [hword, Float.ofBits_toBits]

theorem length_naturalText_le (h : k < 2 ^ 53) : (naturalText k).length ≤ 16 := by
  have hlt : k < 10 ^ 16 := by omega
  exact (Nat.length_toDigits_le_iff (by decide) (by decide)).mpr hlt

/-- A natural number as a decimal. -/
theorem toFloat_natural (h : k < 2 ^ 53) : Decimal.toFloat false ⟨k, 0⟩ = Float.ofNat k := by
  have hlen := length_naturalText_le h
  unfold Decimal.toFloat
  dsimp only
  by_cases h0 : k = 0
  · subst h0
    rfl
  · rw [if_neg (by simp [h0]), if_neg (by omega)]
    have hten : tenTo (0 : Int).toNat = 1 := rfl
    have hten' : tenTo (-(0 : Int)).toNat = 1 := rfl
    rw [hten, hten', Nat.mul_one, nearest_natural h]

/-- **The digits of a natural number are read as that number.** -/
theorem read?_naturalText (h : k < 2 ^ 53) :
    Decimal.read? (naturalText k) = some (Float.ofNat k) := by
  have hall : ∀ c ∈ naturalText k, c.isDigit = true := isDigit_naturalText k
  have hsign : takeSign (naturalText k) = (false, naturalText k) := by
    unfold takeSign
    split
    · rename_i cs heq
      exact absurd (hall '-' (heq ▸ List.mem_cons_self)) (by decide)
    · rename_i cs heq
      exact absurd (hall '+' (heq ▸ List.mem_cons_self)) (by decide)
    · rfl
  have htake : (naturalText k).takeWhile Char.isDigit = naturalText k :=
    List.takeWhile_eq_self_iff.mpr hall
  have hdrop : (naturalText k).dropWhile Char.isDigit = [] := List.dropWhile_eq_nil_iff.mpr hall
  have hempty : (naturalText k).isEmpty = false :=
    List.isEmpty_eq_false_iff.mpr (naturalText_ne_nil k)
  unfold Decimal.read?
  rw [hsign]
  dsimp only
  rw [htake, hdrop]
  dsimp only [takeFraction]
  rw [hempty, List.append_nil, digitsValue_naturalText]
  simp only [Bool.false_and, Bool.false_eq_true, if_false, readExponent?, Option.map_some,
    List.length_nil, Nat.cast_zero, Int.sub_zero]
  rw [toFloat_natural h]

/-! ## 4. Showing -/

/-- A natural number is its significand over a power of two. -/
theorem exists_ofFloat_ofNat (h : k < 2 ^ 53) : ∃ j : Nat,
    Binary.ofFloat (Float.ofNat k) = .finite false (k * 2 ^ j) (-(j : Int)) := by
  by_cases h0 : k = 0
  · subst h0
    refine ⟨1074, ?_⟩
    rw [Nat.zero_mul]
    rfl
  · refine ⟨52 - k.log2, ?_⟩
    rw [ofFloat_ofNat h0 h, leading, leadingExponent_eq_neg h0 h]

theorem wholeOf_ofNat (h : k < 2 ^ 53) : wholeOf (Float.ofNat k) = Float.ofNat k := by
  obtain ⟨j, hj⟩ := exists_ofFloat_ofNat h
  have hcut : k * 2 ^ j / 2 ^ j = k := Nat.mul_div_cancel k (by positivity)
  unfold wholeOf replaceWhole
  rw [hj]
  dsimp only
  rw [Int.neg_neg, Int.toNat_natCast, twoTo_eq, hcut, signedWhole, if_neg Bool.false_ne_true,
    ite_self]

theorem toWord_ofNat (h : k < 2 ^ 53) : toWord (Float.ofNat k) = k := by
  obtain ⟨j, hj⟩ := exists_ofFloat_ofNat h
  have hcut : (if 0 ≤ -(j : Int) then k * 2 ^ j * twoTo (-(j : Int)).toNat
      else k * 2 ^ j / twoTo (- -(j : Int)).toNat) = k := by
    split
    · obtain rfl : j = 0 := by omega
      simp
    · rw [Int.neg_neg, Int.toNat_natCast, twoTo_eq, Nat.mul_div_cancel k (by positivity)]
  have hlarge : ((twoTo 63 : Nat) : Int) = 2 ^ 63 := by rw [twoTo_eq]; norm_num
  unfold toWord truncateWithin
  rw [hj]
  dsimp only
  rw [hcut, if_neg Bool.false_ne_true, hlarge]
  omega

theorem sub_self_ofNat (h : k < 2 ^ 53) : Float.ofNat k - Float.ofNat k = Float.ofNat 0 := by
  have hsub : Float.ofNat k - Float.ofNat k = .ofModel (.pack (UnpackedFloat.sub
    Format.binary64 (Float.ofNat k).toModel.unpack (Float.ofNat k).toModel.unpack)) := rfl
  by_cases h0 : k = 0
  · subst h0
    rfl
  · rw [hsub, unpack_ofNat h0 h]
    simp only [UnpackedFloat.sub, Int.sub_self, UnpackedFloat.normalize]
    rfl

theorem abs_ofNat (h : k < 2 ^ 53) : (Float.ofNat k).abs = Float.ofNat k := by
  by_cases h0 : k = 0
  · subst h0
    rfl
  · have habs : (Float.ofNat k).abs = .ofModel (.pack (Float.ofNat k).toModel.unpack.abs) := rfl
    rw [habs, unpack_ofNat h0 h, UnpackedFloat.abs, ← toModel_ofNat h0 h]

theorem isNaN_ofNat (h : k < 2 ^ 53) : (Float.ofNat k).isNaN = false := by
  by_cases h0 : k = 0
  · subst h0
    rfl
  · have hnan : (Float.ofNat k).isNaN = (Float.ofNat k).toModel.unpack.isNaN := rfl
    rw [hnan, unpack_ofNat h0 h]
    rfl

theorem ofNat_lt_1e15 (h : k < 10 ^ 15) : Float.ofNat k < 1e15 := by
  have hbound : (1e15 : Float).toModel.unpack =
      .finite .positive (10 ^ 15 * 8) (-3) (by decide) := rfl
  refine decide_eq_true (p := (Float.ofNat k).toModel < (1e15 : Float).toModel) ?_
  show UnpackedFloat.lt (Float.ofNat k).toModel.unpack (1e15 : Float).toModel.unpack = true
  rw [hbound]
  by_cases h0 : k = 0
  · subst h0
    rfl
  · have hlog : k.log2 < 50 := (Nat.log2_lt h0).mpr (by omega)
    rw [unpack_ofNat h0 (by omega), UnpackedFloat.lt, UnpackedFloat.compare]
    have hcompare : (compare (leadingExponent k) (-3)).then
        (compare (leading k) (10 ^ 15 * 8)) = .lt := by
      rw [Ordering.then_eq_lt]
      rcases Nat.lt_or_eq_of_le (Nat.le_of_lt_succ hlog) with hless | hequal
      · left
        rw [Int.compare_eq_lt]
        unfold leadingExponent
        omega
      · right
        rw [Int.compare_eq_eq, Nat.compare_eq_lt]
        unfold leadingExponent leading
        rw [hequal]
        omega
    rw [hcompare]
    rfl

/-- **A natural number is shown by its digits.** -/
theorem showNumber_ofNat (h : k < 10 ^ 15) : showNumber (Float.ofNat k) = naturalText k := by
  have hsmall : k < 2 ^ 53 := by omega
  have hfraction : (fractionOf (Float.ofNat k) == 0) = true := by
    rw [fractionOf, wholeOf_ofNat hsmall, sub_self_ofNat hsmall]
    rfl
  unfold showNumber
  rw [isNaN_ofNat hsmall, hfraction, abs_ofNat hsmall, toWord_ofNat hsmall]
  simp [ofNat_lt_1e15 h, integerText]

end Naturals

end Gridcalc
