import Gridcalc.Number.Statistics
import Gridcalc.Proofs.Number.Naturals

/-!
# Sums of doubles

What of the arithmetic of numbers holds of doubles too: zero added changes nothing, as long as there
is no negative zero, and sums of natural numbers are exact while they stay below `2 ^ 53`.

* `pack_unpack`: a number is nothing but its sign, significand and exponent;
* `round_finite`: rounding leaves something of a number;
* `Proper`: any number but the negative zero; `Proper.add_zero` and `Proper.add`: **zero can be left
  out of a sum that starts at a proper number**;
* `ofNat_add`: **natural numbers are added exactly**.
-/

namespace Gridcalc

open Float.Model Float.Model.UnpackedFloat

/-! ## 1. Packing again what was unpacked -/

section Packing

variable {b : BitVec Format.binary64.numBits} {m : Nat} {e : Int} {s : Sign}

/-- The smallest numbers have the exponent of zero in their bits. -/
theorem pack_subnormal (hm : m < 2 ^ 52) (he : e < 972) (hpos : 0 < m) :
    UnpackedFloat.pack .binary64 (.finite s m e hpos) =
      packComponents .binary64 s 0#_ (BitVec.ofNat 52 m) := by
  have hlog : m.log2 < 52 := (Nat.log2_lt hpos.ne').mpr hm
  unfold UnpackedFloat.pack
  dsimp only
  rw [biased_exponent, if_neg, if_neg]
  · show ¬m.log2 + 1 = 53
    omega
  · show ¬2 ^ 11 ≤ (e + 1075).toNat + 1
    omega

/-- Numbers that are too large become infinite. -/
theorem pack_overflow (he : 972 ≤ e) (hpos : 0 < m) :
    UnpackedFloat.pack .binary64 (.finite s m e hpos) = packedInfinity .binary64 s := by
  unfold UnpackedFloat.pack
  dsimp only
  rw [biased_exponent, if_pos]
  show 2 ^ 11 ≤ (e + 1075).toNat + 1
  omega

/-- **A number is packed again from what it was unpacked to.** -/
theorem pack_unpack (x : Float.Model) : Float.Model.pack x.unpack = x := by
  obtain ⟨bits, hvalid⟩ := x
  have h : UnpackedFloat.pack .binary64 (UnpackedFloat.unpack .binary64 bits.toBitVec) =
      bits.toBitVec := pack_unpack_of_valid hvalid
  simp only [Float.Model.pack, Float.Model.unpack, h]

/-- Only the bits of zero are read as zero. -/
theorem fields_of_unpack_eq_zero (h : UnpackedFloat.unpack .binary64 b = .zero s) :
    unpackExponent b = 0#_ ∧ unpackMantissa b = 0#_ := by
  unfold UnpackedFloat.unpack at h
  dsimp only at h
  split at h
  · split at h <;> cases h
  · split at h
    · split at h
      · exact ⟨‹_›, ‹_›⟩
      · cases h
    · cases h

end Packing

/-! ## 2. Rounding -/

section Rounding

variable {m n : Nat} {e : Int} {s : Sign} {u v : UnpackedFloat}

/-- Shifting divides by a power of two. -/
theorem mantissa_shiftRight (em : ExtendedMantissa) (n : Nat) :
    (em >>> n).mantissa = em.mantissa / 2 ^ n := by
  induction n with
  | zero => exact (Nat.div_one _).symm
  | succ n ih =>
    show (em >>> n).mantissa / 2 = _
    rw [ih, Nat.div_div_eq_div_mul, ← Nat.pow_succ]

theorem mantissa_ofMantissaAndAccuracy (m : Nat) (a : Accuracy) :
    (ExtendedMantissa.ofMantissaAndAccuracy m a).mantissa = m := by
  rcases a with _ | _ | _ | _ <;> rfl

theorem le_roundedMantissa (em : ExtendedMantissa) : em.mantissa ≤ em.roundedMantissa := by
  rcases em with ⟨m, _ | _, _ | _⟩
  · exact Nat.le_refl m
  · exact Nat.le_refl m
  · exact Nat.le_add_right m _
  · exact Nat.le_succ m

/-- What is shifted to its target has 53 bits at most, and something is left of it. -/
theorem shiftToTargetExponent_bounds (hm : 0 < m) (he : -1074 ≤ e) (a : Accuracy) :
    0 < (shiftToTargetExponent .binary64 m e a).1.mantissa ∧
      (shiftToTargetExponent .binary64 m e a).1.mantissa < 2 ^ 53 ∧
      -1074 ≤ (shiftToTargetExponent .binary64 m e a).2 := by
  have hshift : (Format.binary64.targetExponent (totalExponent m e) - e).toNat = m.log2 - 52 := by
    rw [targetExponent_binary64, totalExponent]
    omega
  obtain ⟨hlow, hhigh⟩ := (Nat.log2_eq_iff hm.ne').mp rfl
  have hmantissa : (shiftToTargetExponent .binary64 m e a).1.mantissa = m / 2 ^ (m.log2 - 52) := by
    show (_ >>> _ : ExtendedMantissa).mantissa = _
    rw [mantissa_shiftRight, mantissa_ofMantissaAndAccuracy, hshift]
  refine ⟨?_, ?_, ?_⟩
  · rw [hmantissa]
    refine Nat.div_pos (Nat.le_trans ?_ hlow) (Nat.two_pow_pos _)
    exact Nat.pow_le_pow_right Nat.two_pos (Nat.sub_le _ _)
  · rw [hmantissa, Nat.div_lt_iff_lt_mul (Nat.two_pow_pos _), ← Nat.pow_add]
    exact Nat.lt_of_lt_of_le hhigh (Nat.pow_le_pow_right Nat.two_pos (by omega))
  · show -1074 ≤ e + _
    omega

/-- Rounding leaves something of a number. -/
theorem roundWithAccuracy_finite (hm : 0 < m) (he : -1074 ≤ e) (a : Accuracy) :
    ∃ m' e' h, roundWithAccuracy .binary64 s m e a = .finite s m' e' h ∧ m' < 2 ^ 53 ∧
      -1074 ≤ e' := by
  obtain ⟨hpos, -, hexp⟩ := shiftToTargetExponent_bounds hm he a
  have hrounded := Nat.lt_of_lt_of_le hpos (le_roundedMantissa _)
  obtain ⟨hpos', hlt, hexp'⟩ := shiftToTargetExponent_bounds hrounded hexp .exact
  exact ⟨_, _, hpos', dif_neg hpos'.ne', hlt, hexp'⟩

theorem round_finite (hm : 0 < m) (he : -1074 ≤ e) :
    ∃ m' e' h, UnpackedFloat.round .binary64 s m e = .finite s m' e' h ∧ m' < 2 ^ 53 ∧
      -1074 ≤ e' := by
  refine roundWithAccuracy_finite ?_ ?_ .exact
  · rw [Nat.shiftLeft_eq]
    exact Nat.mul_pos hm (Nat.two_pow_pos _)
  · rw [targetExponent_binary64]
    omega

/-- A packed number is not read as zero. -/
theorem unpack_pack_ne_zero (hm : m < 2 ^ 53) (he : -1074 ≤ e) (hpos : 0 < m) (s' : Sign) :
    (Float.Model.pack (.finite s m e hpos)).unpack ≠ .zero s' := by
  intro h
  have hfields := fields_of_unpack_eq_zero
    (show UnpackedFloat.unpack .binary64 (UnpackedFloat.pack .binary64 _) = _ from h)
  by_cases hlarge : 972 ≤ e
  · rw [pack_overflow hlarge, packedInfinity, unpackExponent_packComponents] at hfields
    exact absurd hfields.1 (by decide)
  · by_cases hlog : m.log2 = 52
    · rw [pack_normal hlog (by omega), unpackExponent_packComponents] at hfields
      have hfield := congrArg BitVec.toNat hfields.1
      rw [BitVec.toNat_ofNat] at hfield
      change (e + 1075).toNat % 2 ^ 11 = 0 at hfield
      omega
    · have hlt : m < 2 ^ 52 := by
        have hle := log2_le hpos.ne' hm
        exact (Nat.log2_lt hpos.ne').mp (by omega)
      rw [pack_subnormal hlt (by omega), unpackMantissa_packComponents] at hfields
      have hfraction := congrArg BitVec.toNat hfields.2
      rw [BitVec.toNat_ofNat] at hfraction
      change m % 2 ^ 52 = 0 at hfraction
      omega

end Rounding

/-! ## 3. Zero as a summand -/

/-- Any number but the negative zero. -/
def Proper (x : Float) : Prop := x.toModel.unpack ≠ .zero .negative

section Zero

variable {m n : Nat} {e e' : Int} {s s' : Sign} {u v : UnpackedFloat} {x : Float}

theorem unpack_zero : (0 : Float).toModel.unpack = .zero .positive := rfl

/-- The least exponent that an unpacked number has. -/
theorem exponent_of_unpack {y : Float.Model} {hpos : 0 < m} (h : y.unpack = .finite s m e hpos) :
    -1074 ≤ e := by
  unfold Float.Model.unpack UnpackedFloat.unpack at h
  dsimp only at h
  rw [bias_binary64] at h
  split at h
  · split at h <;> cases h
  · split at h
    · split at h
      · cases h
      · cases h
        omega
    · rename_i hfirst
      cases h
      have hlow : (@unpackExponent .binary64 y.toBits.toBitVec).toNat ≠ 0 :=
        fun h => hfirst (BitVec.eq_of_toNat_eq h)
      omega

theorem unpack_pack_notANumber :
    (Float.Model.pack .notANumber).unpack ≠ .zero .negative := by
  rw [show (Float.Model.pack .notANumber).unpack = .notANumber from rfl]
  exact nofun

theorem unpack_pack_positiveZero :
    (Float.Model.pack (.zero .positive)).unpack ≠ .zero .negative := by
  rw [show (Float.Model.pack (.zero .positive)).unpack = .zero .positive from rfl]
  exact nofun

theorem unpack_pack_round (hm : 0 < m) (he : -1074 ≤ e) (s' : Sign) :
    (Float.Model.pack (UnpackedFloat.round .binary64 s m e)).unpack ≠ .zero s' := by
  obtain ⟨_, _, _, hround, hlt, hle⟩ := round_finite (s := s) hm he
  rw [hround]
  exact unpack_pack_ne_zero hlt hle _ _

/-- A sum of two numbers is no negative zero: it is the positive one, or rounding leaves something
    of it. -/
theorem unpack_pack_add_finite (he : -1074 ≤ e) (he' : -1074 ≤ e') (hm : 0 < m) (hn : 0 < n) :
    (Float.Model.pack (UnpackedFloat.add .binary64 (.finite s m e hm)
      (.finite s' n e' hn))).unpack ≠ .zero .negative := by
  have hmin : -1074 ≤ min e e' := le_min he he'
  unfold UnpackedFloat.add UnpackedFloat.normalize
  dsimp only
  generalize s.apply _ + s'.apply _ = sum
  cases hsign : compare sum 0 with
  | eq => exact unpack_pack_positiveZero
  | lt =>
    rw [Int.compare_eq_lt] at hsign
    exact unpack_pack_round (by omega) hmin _
  | gt =>
    rw [Int.compare_eq_gt] at hsign
    exact unpack_pack_round (by omega) hmin _

theorem proper_zero : Proper 0 := by
  rw [Proper, unpack_zero]
  exact nofun

theorem add_zero_of_ne (h : u ≠ .zero .negative) :
    UnpackedFloat.add .binary64 u (.zero .positive) = u := by
  cases u with
  | zero s =>
    cases s with
    | negative => exact absurd rfl h
    | positive => rfl
  | _ => rfl

/-- **Zero added changes nothing.** -/
theorem Proper.add_zero (h : Proper x) : x + 0 = x := by
  show Float.ofModel (.pack (UnpackedFloat.add .binary64 x.toModel.unpack
    (0 : Float).toModel.unpack)) = x
  rw [unpack_zero, add_zero_of_ne h, pack_unpack]

/-- What is added to a proper number is one of the two, unless both are numbers in the narrow
    sense, the result is none, or both are zero. -/
theorem add_cases (h : u ≠ .zero .negative) :
    (∃ s m e hm s' n e' hn, u = .finite s m e hm ∧ v = .finite s' n e' hn) ∨
      UnpackedFloat.add .binary64 u v = u ∨
      UnpackedFloat.add .binary64 u v = v ∧ v ≠ .zero .negative ∨
      UnpackedFloat.add .binary64 u v = .notANumber ∨
      UnpackedFloat.add .binary64 u v = .zero .positive := by
  cases u with
  | notANumber => exact .inr (.inl rfl)
  | infinity s =>
    cases v with
    | notANumber => exact .inr (.inr (.inl ⟨rfl, nofun⟩))
    | infinity s' =>
      cases s <;> cases s'
      · exact .inr (.inl rfl)
      · exact .inr (.inr (.inr (.inl rfl)))
      · exact .inr (.inr (.inr (.inl rfl)))
      · exact .inr (.inl rfl)
    | zero s' => exact .inr (.inl rfl)
    | finite s' n e' hn => exact .inr (.inl rfl)
  | zero s =>
    cases s with
    | negative => exact absurd rfl h
    | positive =>
      cases v with
      | notANumber => exact .inr (.inr (.inl ⟨rfl, nofun⟩))
      | infinity s' => exact .inr (.inr (.inl ⟨rfl, nofun⟩))
      | zero s' => exact .inr (.inr (.inr (.inr (by cases s' <;> rfl))))
      | finite s' n e' hn => exact .inr (.inr (.inl ⟨rfl, nofun⟩))
  | finite s m e hm =>
    cases v with
    | notANumber => exact .inr (.inr (.inl ⟨rfl, nofun⟩))
    | infinity s' => exact .inr (.inr (.inl ⟨rfl, nofun⟩))
    | zero s' => exact .inr (.inl rfl)
    | finite s' n e' hn => exact .inl ⟨s, m, e, hm, s', n, e', hn, rfl, rfl⟩

/-- **A proper number stays one whatever is added to it.** -/
theorem Proper.add (h : Proper x) (y : Float) : Proper (x + y) := by
  show (Float.Model.pack (UnpackedFloat.add .binary64 x.toModel.unpack y.toModel.unpack)).unpack ≠
    .zero .negative
  rcases add_cases (v := y.toModel.unpack) h with
    ⟨s, m, e, hm, s', n, e', hn, hx, hy⟩ | hadd | ⟨hadd, hy⟩ | hadd | hadd
  · rw [hx, hy]
    exact unpack_pack_add_finite (exponent_of_unpack hx) (exponent_of_unpack hy) hm hn
  · rw [hadd, pack_unpack]
    exact h
  · rw [hadd, pack_unpack]
    exact hy
  · rw [hadd]
    exact unpack_pack_notANumber
  · rw [hadd]
    exact unpack_pack_positiveZero

end Zero

/-! ## 4. Natural numbers -/

section Naturals

variable {k a b : Nat}

/-- A natural number at the place of a smaller exponent. -/
theorem decreaseExponent_leading (h0 : k ≠ 0) (h : k < 2 ^ 53) {j : Nat}
    (hj : -(j : Int) ≤ leadingExponent k) :
    decreaseExponent (leading k) (leadingExponent k) (-(j : Int)) = (k * 2 ^ j, -(j : Int)) := by
  have hlog := log2_le h0 h
  have hmoved := leadingExponent_eq_neg h0 h
  rw [decreaseExponent, Nat.shiftLeft_eq, leading, Nat.mul_assoc, ← Nat.pow_add]
  refine Prod.ext ?_ ?_
  · show k * 2 ^ _ = k * 2 ^ j
    congr 2
    omega
  · show leadingExponent k - _ = -(j : Int)
    omega

theorem proper_ofNat (h : k < 2 ^ 53) : Proper (Float.ofNat k) := by
  by_cases h0 : k = 0
  · rw [h0]
    exact proper_zero
  · rw [Proper, unpack_ofNat h0 h]
    exact nofun

/-- **Natural numbers are added exactly.** -/
theorem ofNat_add (h : a + b < 2 ^ 53) : Float.ofNat a + Float.ofNat b = Float.ofNat (a + b) := by
  have ha : a < 2 ^ 53 := by omega
  have hb : b < 2 ^ 53 := by omega
  by_cases hb0 : b = 0
  · subst hb0
    exact (proper_ofNat ha).add_zero
  by_cases ha0 : a = 0
  · subst ha0
    show Float.ofModel (.pack (UnpackedFloat.add .binary64 (.zero .positive)
      (Float.ofNat b).toModel.unpack)) = Float.ofNat (0 + b)
    rw [unpack_ofNat hb0 hb, Nat.zero_add]
    exact congrArg Float.ofModel (toModel_ofNat hb0 hb).symm
  have hsum : a + b ≠ 0 := by omega
  obtain ⟨j, hj⟩ : ∃ j : Nat, min (leadingExponent a) (leadingExponent b) = -(j : Int) := by
    have hlow := leadingExponent_bounds ha0 ha
    have hlow' := leadingExponent_bounds hb0 hb
    exact ⟨(-min (leadingExponent a) (leadingExponent b)).toNat, by omega⟩
  show Float.ofModel (.pack (UnpackedFloat.add .binary64 (Float.ofNat a).toModel.unpack
    (Float.ofNat b).toModel.unpack)) = Float.ofModel (Float.ofNat (a + b)).toModel
  rw [unpack_ofNat ha0 ha, unpack_ofNat hb0 hb, toModel_ofNat hsum h]
  refine congrArg (fun u => Float.ofModel (Float.Model.pack u)) ?_
  unfold UnpackedFloat.add
  dsimp only
  rw [hj, decreaseExponent_leading ha0 ha (by omega), decreaseExponent_leading hb0 hb (by omega)]
  show UnpackedFloat.normalize .binary64 ((a * 2 ^ j : Nat) + (b * 2 ^ j : Nat)) _ _ = _
  rw [← Int.natCast_add, ← Nat.add_mul]
  have hpositive : compare (((a + b) * 2 ^ j : Nat) : Int) 0 = .gt := by
    have hpos : 0 < (a + b) * 2 ^ j := Nat.mul_pos (Nat.pos_of_ne_zero hsum) (Nat.two_pow_pos j)
    rw [Int.compare_eq_gt]
    omega
  rw [UnpackedFloat.normalize, hpositive]
  exact round_natural hsum h j

end Naturals

end Gridcalc
