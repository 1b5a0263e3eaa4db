import Gridcalc.Proofs.Number.Wholes
import Gridcalc.Value.Coercion

/-!
# Lengths of what is shown

No value other than a text takes long to show. A number has no more than some thousand characters,
as a decimal without exponent has to reach from its first digit to the point, and a date of the
calendar has some twenty.

* `Decimal.length_positional_le`: the characters of a decimal, by its digits and its exponent;
* `Decimal.shortest_bounds`: the digits and the exponent of the shortest decimal;
* `length_showNumber_le`: **the characters of a number**;
* `Moment.InCalendar`, `length_momentText_le`: **the characters of a date**.
-/

namespace Gridcalc

/-! ## 1. Digits -/

section Digits

variable {n a b c : Nat} {e k : Int} {m : Nat} {cs : List Char}

theorem length_naturalText_le_of_lt (h : n < 10 ^ a) (ha : 0 < a) : (naturalText n).length ≤ a :=
  (Nat.length_toDigits_le_iff (by decide) ha).mpr h

theorem length_padZeros (width : Nat) (cs : List Char) :
    (padZeros width cs).length = max width cs.length := by
  rw [padZeros, List.length_append, List.length_replicate]
  omega

theorem length_minusText_le (negative : Bool) (cs : List Char) :
    (minusText negative cs).length ≤ cs.length + 1 := by
  cases negative
  · exact Nat.le_succ _
  · exact Nat.le_refl _

/-! ## 2. Decimals -/

namespace Decimal

/-- A decimal without an exponent has its digits, and zeros up to the point. -/
theorem length_positional_le {d : Decimal} (hdigits : d.digits < 10 ^ a) (ha : 0 < a)
    (hlow : -(b : Int) ≤ d.exponent) (hhigh : d.exponent ≤ c) :
    d.positional.length ≤ a + b + c + 2 := by
  have hlen := length_naturalText_le_of_lt hdigits ha
  unfold positional
  dsimp only
  split
  · rw [List.length_append, List.length_replicate]
    omega
  · rw [List.length_append, List.length_take, List.length_cons, List.length_drop, length_padZeros]
    omega

/-- Each zero that is taken off adds one to the exponent. -/
theorem trimmed_bounds (d : Decimal) (h : d.digits < 10 ^ a) (ha : 0 < a) :
    ∃ j < a, (trimmed d).digits < 10 ^ (a - j) ∧ (trimmed d).exponent = d.exponent + j := by
  induction d using trimmed.induct generalizing a with
  | case1 d hzero ih =>
    rw [trimmed, dif_pos hzero]
    have hmore : a ≠ 1 := by
      rintro rfl
      omega
    have hpow : 10 ^ a = 10 ^ (a - 1) * 10 := by
      rw [← Nat.pow_succ]
      congr 1
      omega
    obtain ⟨j, hj, hdigits, hexponent⟩ := @ih (a - 1) (by dsimp only; omega) (by omega)
    refine ⟨j + 1, by omega, ?_, ?_⟩
    · rwa [show a - (j + 1) = a - 1 - j by omega]
    · rw [hexponent]
      push_cast
      omega
  | case2 d hlast =>
    rw [trimmed, dif_neg hlast]
    exact ⟨0, ha, h, by simp⟩

theorem length_positional_trimmed_le {d : Decimal} (hdigits : d.digits < 10 ^ a) (ha : 0 < a)
    (hlow : -(b : Int) ≤ d.exponent) (hhigh : d.exponent ≤ c) :
    (trimmed d).positional.length ≤ a + b + c + 2 := by
  obtain ⟨j, hj, hless, hexponent⟩ := trimmed_bounds d hdigits ha
  have hlen := length_positional_le (b := b) (c := c + j) hless (by omega) (by omega)
    (by push_cast; omega)
  omega

/-- There are some hundred digits before the point at most, or as many zeros behind it. -/
theorem wholeDigits_bounds (hm : m < 2 ^ 53) (hlow : -1074 ≤ e) (hhigh : e ≤ 971) :
    -330 ≤ wholeDigits m e ∧ wholeDigits m e ≤ 330 := by
  have hlog : m.log2 < 53 := by
    by_cases h0 : m = 0
    · rw [h0]
      decide
    · exact (Nat.log2_lt h0).mpr hm
  unfold wholeDigits
  dsimp only
  split
  · omega
  · split <;> omega

/-- The digits on a grid are those of the significand, moved up by the exponent and the grid. -/
theorem onGrid?_le {digits : Nat} (h : onGrid? m e k = some digits) :
    digits ≤ 4 * m * (2 ^ (e - 2).toNat * 10 ^ (-k).toNat) + 1 := by
  unfold onGrid? at h
  dsimp only at h
  have hdown := Nat.div_le_self (4 * m * (quarterOverGrid e k).1) (quarterOverGrid e k).2
  have hnum : (quarterOverGrid e k).1 = 2 ^ (e - 2).toNat * 10 ^ (-k).toNat := rfl
  rw [hnum] at hdown h
  split at h
  · split at h <;> cases h <;> omega
  · cases h
    omega
  · cases h
    omega
  · cases h

theorem two_pow_le_ten_pow (h : a ≤ b) : 2 ^ a ≤ 10 ^ b :=
  (Nat.pow_le_pow_left (by decide) a).trans (Nat.pow_le_pow_right (by decide) h)

theorem onGrid?_lt_ten_pow {digits : Nat} (h : onGrid? m e k = some digits) (hm : m < 10 ^ a)
    (he : (e - 2).toNat ≤ b) (hk : (-k).toNat ≤ c) : digits < 10 ^ (a + 1 + (b + c)) := by
  have hgrid : 2 ^ (e - 2).toNat * 10 ^ (-k).toNat ≤ 10 ^ (b + c) := by
    rw [Nat.pow_add]
    exact Nat.mul_le_mul (two_pow_le_ten_pow he) (Nat.pow_le_pow_right (by decide) hk)
  have hpos : 0 < 10 ^ (b + c) := by positivity
  have hdigits : 4 * m + 1 < 10 ^ (a + 1) := by
    rw [Nat.pow_succ]
    omega
  calc digits ≤ 4 * m * (2 ^ (e - 2).toNat * 10 ^ (-k).toNat) + 1 := onGrid?_le h
    _ ≤ 4 * m * 10 ^ (b + c) + 10 ^ (b + c) :=
      Nat.add_le_add (Nat.mul_le_mul_left (4 * m) hgrid) hpos
    _ = (4 * m + 1) * 10 ^ (b + c) := (Nat.succ_mul (4 * m) _).symm
    _ < 10 ^ (a + 1) * 10 ^ (b + c) := Nat.mul_lt_mul_of_pos_right hdigits hpos
    _ = 10 ^ (a + 1 + (b + c)) := (Nat.pow_add 10 (a + 1) (b + c)).symm

/-- **The shortest decimal of a double**, before zeros are taken off, has a limited number of digits
    and an exponent within limits. -/
theorem length_shortest_le (hm : m < 2 ^ 53) (hlow : -1074 ≤ e) (hhigh : e ≤ 971) :
    (shortest m e).positional.length ≤ 4000 := by
  have hsmall : m < 10 ^ 53 := hm.trans_le (two_pow_le_ten_pow (Nat.le_refl 53))
  have hwhole := wholeDigits_bounds hm hlow hhigh
  unfold shortest
  dsimp only
  cases hfind : (List.range 18).findSome? fun n =>
      (onGrid? m e (wholeDigits m e - (n + 1 : Nat))).map fun digits =>
        trimmed ⟨digits, wholeDigits m e - (n + 1 : Nat)⟩ with
  | none =>
    rw [Option.getD_none]
    have hmost := @length_positional_le 53 1074 971 ⟨m, e⟩ hsmall (by omega) hlow hhigh
    omega
  | some d =>
    obtain ⟨n, hn, hd⟩ := List.exists_of_findSome?_eq_some hfind
    obtain ⟨digits, hgrid, rfl⟩ := Option.map_eq_some_iff.mp hd
    have hrange := List.mem_range.mp hn
    have hbound := @onGrid?_lt_ten_pow 53 969 348 e _ m digits hgrid hsmall (by omega) (by omega)
    have hmost := @length_positional_trimmed_le (53 + 1 + (969 + 348)) 348 330
      ⟨digits, wholeDigits m e - (n + 1 : Nat)⟩ hbound (by omega) (by dsimp only; omega)
      (by dsimp only; omega)
    rw [Option.getD_some]
    omega

end Decimal

/-! ## 3. Numbers -/

theorem length_shortText_le (x : Float) : (shortText x).length ≤ 4001 := by
  unfold shortText
  split
  · decide
  · rename_i negative _
    exact (length_minusText_le negative _).trans (by decide)
  · rename_i negative m e hread
    obtain ⟨hm, hlow, hhigh⟩ := bounds_of_ofFloat hread
    refine (length_minusText_le negative _).trans (Nat.succ_le_succ ?_)
    split
    · decide
    · exact Decimal.length_shortest_le hm hlow hhigh

theorem length_integerText_le (k : Int) (h : k.natAbs < 10 ^ a) (ha : 0 < a) :
    (integerText k).length ≤ a + 1 := by
  have hlen := length_naturalText_le_of_lt h ha
  unfold integerText
  split
  · exact Nat.succ_le_succ hlen
  · omega

theorem natAbs_toWord_le (x : Float) : (toWord x).natAbs ≤ 2 ^ 63 := by
  have hword : -((twoTo 63 : Nat) : Int) ≤ toWord x ∧ toWord x ≤ (twoTo 63 : Nat) - 1 :=
    truncateWithin_mem (by decide) (by decide) x
  have hlarge : ((twoTo 63 : Nat) : Int) = (2 ^ 63 : Nat) := rfl
  omega

/-- **A number is shown in some thousand characters at most.** -/
theorem length_showNumber_le (x : Float) : (showNumber x).length ≤ 4001 := by
  unfold showNumber
  split
  · decide
  · split
    · have hword := natAbs_toWord_le x
      have hlen := @length_integerText_le 20 (toWord x) (by omega) (by decide)
      omega
    · dsimp only
      split
      · exact length_shortText_le x
      · rename_i hshort
        simp only [Bool.or_eq_true, decide_eq_true_eq, not_or] at hshort
        omega

end Digits

/-! ## 4. Dates -/

/-- The moment lies in the calendar, and its time of day on the clock, which may go on for a second
    at the end of a minute. -/
structure Moment.InCalendar (t : Moment) : Prop where
  year : yearInCalendar t.date.year = true
  second : t.second < 86400
  nano : t.nano < 2000000000

/-- A year has no more than 366 days. -/
theorem Date.yearDay_lt (date : Date) : date.yearDay < 366 := by
  have hday : date.number + epoch - daysBeforeYear date.year < 366 := by
    simp only [year]
    generalize date.number + epoch = n
    have hn := Int.mul_ediv_add_emod n 146097
    have hr := Int.emod_nonneg n (show (146097 : Int) ≠ 0 by decide)
    have hr' := Int.emod_lt_of_pos n (show (0 : Int) < 146097 by decide)
    generalize n / 146097 = c at *
    generalize n % 146097 = r at *
    -- What is left of a cycle, a century and a span is no longer than the longest of them.
    have hh : 0 ≤ min (r / 36524) 3 ∧ min (r / 36524) 3 ≤ 3 ∧
        0 ≤ r - 36524 * min (r / 36524) 3 ∧ r - 36524 * min (r / 36524) 3 ≤ 36524 := by omega
    generalize min (r / 36524) 3 = h at *
    have hs : 0 ≤ (r - h * 36524) / 1461 ∧ (r - h * 36524) / 1461 ≤ 24 ∧
        0 ≤ r - h * 36524 - 1461 * ((r - h * 36524) / 1461) ∧
        r - h * 36524 - 1461 * ((r - h * 36524) / 1461) ≤ 1460 := by omega
    generalize (r - h * 36524) / 1461 = s at *
    have hk : 0 ≤ min ((r - h * 36524 - s * 1461) / 365) 3 ∧
        min ((r - h * 36524 - s * 1461) / 365) 3 ≤ 3 ∧
        r - h * 36524 - s * 1461 - 365 * min ((r - h * 36524 - s * 1461) / 365) 3 ≤ 365 := by omega
    generalize min ((r - h * 36524 - s * 1461) / 365) 3 = k at *
    rw [daysBeforeYear_split ⟨hh.1, hh.2.1⟩ ⟨hs.1, hs.2.1⟩ ⟨hk.1, hk.2.1⟩]
    omega
  unfold yearDay
  omega

theorem splitYearDay_le (m n : Nat) (lengths : List Nat) :
    (splitYearDay m n lengths).1 ≤ m + lengths.length ∧ (splitYearDay m n lengths).2 ≤ n + 1 := by
  induction lengths generalizing m n with
  | nil => exact ⟨Nat.le_refl m, Nat.le_refl _⟩
  | cons length rest ih =>
    unfold splitYearDay
    split
    · exact ⟨Nat.le_add_right m _, Nat.le_refl _⟩
    · have hrest := ih (m + 1) (n - length)
      rw [List.length_cons]
      omega

theorem Date.month_le (date : Date) : date.month ≤ 13 := (splitYearDay_le 1 _ _).1

theorem Date.dayOfMonth_le (date : Date) : date.dayOfMonth ≤ 366 :=
  (splitYearDay_le 1 _ _).2.trans date.yearDay_lt

theorem length_twoDigits_le {n : Nat} (h : n < 1000) : (twoDigits n).length ≤ 3 := by
  have hlen := @length_naturalText_le_of_lt n 3 (by omega) (by decide)
  unfold twoDigits
  rw [length_padZeros]
  omega

theorem length_yearText_le {y : Int} (h : y.natAbs < 10 ^ 6) : (yearText y).length ≤ 7 := by
  unfold yearText
  split
  · have hlen := @length_naturalText_le_of_lt y.toNat 6 (by omega) (by decide)
    rw [length_padZeros]
    omega
  · have hlen := length_naturalText_le_of_lt h (by decide)
    rw [List.length_cons, length_padZeros]
    omega

/-- **A date of the calendar is shown in some thirty characters at most**, its time of day
    included. -/
theorem length_momentText_le {t : Moment} (h : t.InCalendar) :
    (Value.momentText t).length ≤ 40 := by
  have hyear : t.date.year.natAbs < 10 ^ 6 := by
    have hrange := of_decide_eq_true h.year
    omega
  have hdate : t.date.isoText.length ≤ 15 := by
    have hy := length_yearText_le hyear
    have hm := length_twoDigits_le (n := t.date.month) (by have := t.date.month_le; omega)
    have hd := length_twoDigits_le (n := t.date.dayOfMonth) (by have := t.date.dayOfMonth_le; omega)
    simp only [Date.isoText, List.length_append, List.length_cons]
    omega
  have hclock : t.clockText.length ≤ 11 := by
    have hsecond := h.second
    have hnano := h.nano
    have hh := length_twoDigits_le (n := t.hour) (by unfold Moment.hour; omega)
    have hm := length_twoDigits_le (n := t.minute) (by unfold Moment.minute; omega)
    have hs := length_twoDigits_le (n := t.shownSecond)
      (by unfold Moment.shownSecond Moment.secondOfMinute; omega)
    simp only [Moment.clockText, List.length_append, List.length_cons]
    omega
  unfold Value.momentText
  split
  · omega
  · rw [Moment.isoText, List.length_append, List.length_cons]
    omega

end Gridcalc
