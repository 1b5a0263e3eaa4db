import Gridcalc.Calendar.Date
import Mathlib.Algebra.BigOperators.Group.List.Basic
import Mathlib.Algebra.Order.Ring.Nat

/-!
# The Gregorian calendar

Dates are counted; their years, months and days are read off the count. The calendar that comes of
it is the one that goes on day by day, with the months and leap years of the Gregorian reform.

* `Date.year_eq_iff`, `splitYearDay_sum`: in which year and in which month a day lies;
* `Date.ofCivil?_eq_some_iff`: **the calendar has each date once**;
* `IsEarlier`, `Date.isEarlier_civil_iff`: **dates are counted in their order**;
* `nextCivil`, `Date.civil_next`: **the day after a date**.
-/

namespace Gridcalc

/-! ## 1. Years -/

theorem daysBeforeYear_le {y y' : Int} (h : y ≤ y') : daysBeforeYear y ≤ daysBeforeYear y' := by
  simp only [daysBeforeYear]
  omega

/-- The length of a year. -/
def yearLength (y : Int) : Nat := (monthLengths (isLeapYear y)).sum

theorem yearLength_eq (y : Int) : (yearLength y : Int) = 365 + if isLeapYear y then 1 else 0 := by
  unfold yearLength
  cases isLeapYear y <;> decide

/-- The next year starts where the months of a year end. -/
theorem daysBeforeYear_add_yearLength (y : Int) :
    daysBeforeYear (y + 1) = daysBeforeYear y + yearLength y := by
  rw [daysBeforeYear_succ, yearLength_eq, Int.add_assoc]

namespace Date

variable {date a b : Date} {y y' : Int} {m m' d d' : Nat}

/-- The last year of a span is a leap year, unless the span is the last one of a century that is not
    the last one of its cycle. -/
theorem isLeapYear_split {c h s k : Int} (hh : 0 ≤ h ∧ h ≤ 3) (hs : 0 ≤ s ∧ s ≤ 24)
    (hk : 0 ≤ k ∧ k ≤ 3) :
    isLeapYear (c * 400 + h * 100 + s * 4 + k + 1) = true ↔ k = 3 ∧ (s = 24 → h = 3) := by
  simp only [isLeapYear, Bool.and_eq_true, Bool.or_eq_true, beq_iff_eq, bne_iff_ne, ne_eq]
  omega

/-- A year ends behind each of its days. -/
theorem lt_daysBeforeYear_year_succ (date : Date) :
    date.number + epoch < daysBeforeYear (date.year + 1) := by
  simp only [year]
  generalize date.number + epoch = n
  have hn := Int.mul_ediv_add_emod n 146097
  have hc := Int.emod_nonneg n (show (146097 : Int) ≠ 0 by decide)
  have hc' := Int.emod_lt_of_pos n (show (0 : Int) < 146097 by decide)
  generalize n / 146097 = c at *
  generalize n % 146097 = r at *
  have hh : 0 ≤ min (r / 36524) 3 ∧ min (r / 36524) 3 ≤ 3 ∧ 36524 * min (r / 36524) 3 ≤ r ∧
      (r - 36524 * min (r / 36524) 3 < 36524 ∨
        min (r / 36524) 3 = 3 ∧ r - 36524 * min (r / 36524) 3 ≤ 36524) := by omega
  generalize min (r / 36524) 3 = h at *
  have hs : 0 ≤ (r - h * 36524) / 1461 ∧ (r - h * 36524) / 1461 ≤ 24 ∧
      1461 * ((r - h * 36524) / 1461) ≤ r - h * 36524 ∧
      r - h * 36524 - 1461 * ((r - h * 36524) / 1461) < 1461 := by omega
  generalize (r - h * 36524) / 1461 = s at *
  have hk : 0 ≤ min ((r - h * 36524 - s * 1461) / 365) 3 ∧
      min ((r - h * 36524 - s * 1461) / 365) 3 ≤ 3 ∧
      (r - h * 36524 - s * 1461 - 365 * min ((r - h * 36524 - s * 1461) / 365) 3 < 365 ∨
        min ((r - h * 36524 - s * 1461) / 365) 3 = 3) := by omega
  generalize min ((r - h * 36524 - s * 1461) / 365) 3 = k at *
  rw [daysBeforeYear_succ, daysBeforeYear_split ⟨hh.1, hh.2.1⟩ ⟨hs.1, hs.2.1⟩ ⟨hk.1, hk.2.1⟩]
  have hleap := isLeapYear_split (c := c) ⟨hh.1, hh.2.1⟩ ⟨hs.1, hs.2.1⟩ ⟨hk.1, hk.2.1⟩
  split
  · omega
  · rename_i hcommon
    rw [hleap] at hcommon
    omega

/-- The year of a date is the one within which the date lies. -/
theorem year_eq_iff : date.year = y ↔
    daysBeforeYear y ≤ date.number + epoch ∧ date.number + epoch < daysBeforeYear (y + 1) := by
  have hlow := daysBeforeYear_year_le date
  have hhigh := lt_daysBeforeYear_year_succ date
  constructor
  · intro heq
    subst heq
    exact ⟨hlow, hhigh⟩
  · intro ⟨hlow', hhigh'⟩
    rcases Int.lt_trichotomy date.year y with hlt | heq | hgt
    · have := daysBeforeYear_le (show date.year + 1 ≤ y by omega)
      omega
    · exact heq
    · have := daysBeforeYear_le (show y + 1 ≤ date.year by omega)
      omega

end Date

/-! ## 2. Months -/

section Months

variable {lengths : List Nat} {i d m n : Nat}

theorem daysBeforeMonth_eq (y : Int) (m : Nat) :
    daysBeforeMonth y m = ((monthLengths (isLeapYear y)).take (m - 1)).sum := rfl

theorem length_monthLengths (leap : Bool) : (monthLengths leap).length = 12 := rfl

/-- A day is found in the month that it was counted from. -/
theorem splitYearDay_sum (m : Nat) (hi : i < lengths.length) (hd : d < lengths[i]) :
    splitYearDay m ((lengths.take i).sum + d) lengths = (m + i, d + 1) := by
  induction lengths generalizing m i with
  | nil => cases hi
  | cons length lengths ih =>
    cases i with
    | zero =>
      rw [List.take_zero, List.sum_nil, Nat.zero_add, splitYearDay]
      exact if_pos hd
    | succ i =>
      have hrest := ih (m + 1) (Nat.lt_of_succ_lt_succ hi) hd
      rw [List.take_succ_cons, List.sum_cons, Nat.add_assoc, splitYearDay,
        if_neg (Nat.not_lt.mpr (Nat.le_add_right _ _)), Nat.add_sub_cancel_left, hrest,
        Nat.add_assoc, Nat.add_comm 1 i]

/-- Every day within some months lies in one of them. -/
theorem exists_month (h : n < lengths.sum) :
    ∃ i d, ∃ hi : i < lengths.length, d < lengths[i] ∧ n = (lengths.take i).sum + d := by
  induction lengths generalizing n with
  | nil => cases h
  | cons length lengths ih =>
    rw [List.sum_cons] at h
    rcases Nat.lt_or_ge n length with hfirst | hlater
    · exact ⟨0, n, Nat.zero_lt_succ _, hfirst, (Nat.zero_add n).symm⟩
    · obtain ⟨i, d, hi, hd, heq⟩ := ih (n := n - length) (by omega)
      refine ⟨i + 1, d, Nat.succ_lt_succ hi, hd, ?_⟩
      rw [List.take_succ_cons, List.sum_cons]
      omega

theorem sum_take_le (h : i ≤ n) : (lengths.take i).sum ≤ (lengths.take n).sum := by
  obtain ⟨k, rfl⟩ := Nat.exists_eq_add_of_le h
  rw [List.take_add, List.sum_append]
  exact Nat.le_add_right _ _

theorem monthLength_succ (y : Int) (hi : i < (monthLengths (isLeapYear y)).length) :
    monthLength y (i + 1) = (monthLengths (isLeapYear y))[i] := by
  rw [monthLength, if_neg (Nat.succ_ne_zero i), Nat.add_sub_cancel, List.getD_eq_getElem?_getD,
    List.getElem?_eq_getElem hi, Option.getD_some]

/-- A month ends within its year. -/
theorem sum_take_month_le (y : Int) (hi : i < (monthLengths (isLeapYear y)).length) :
    ((monthLengths (isLeapYear y)).take i).sum + (monthLengths (isLeapYear y))[i] ≤
      yearLength y := by
  have hall : ((monthLengths (isLeapYear y)).take (i + 1)).sum ≤ ((monthLengths (isLeapYear y)).take
      (monthLengths (isLeapYear y)).length).sum := sum_take_le hi
  rwa [List.sum_take_succ _ _ hi, List.take_length, ← yearLength] at hall

theorem one_le_monthLength (y : Int) (hm : m < 12) : 1 ≤ monthLength y (m + 1) := by
  unfold monthLength
  cases isLeapYear y <;> revert m <;> decide

theorem exists_of_monthLength {y : Int} (hlow : 1 ≤ d) (hhigh : d ≤ monthLength y m) :
    ∃ i < (monthLengths (isLeapYear y)).length, m = i + 1 := by
  unfold monthLength at hhigh
  split at hhigh
  · omega
  · refine ⟨m - 1, ?_, by omega⟩
    by_contra hlarge
    rw [List.getD_eq_getElem?_getD, List.getElem?_eq_none (Nat.not_lt.mp hlarge),
      Option.getD_none] at hhigh
    omega

end Months

/-! ## 3. Dates -/

namespace Date

section Civil

variable {date a b : Date} {y y' : Int} {m m' d d' n : Nat}

/-- The `n`th day of a year, counted from zero. -/
theorem of_yearDay (h : date.number + epoch = daysBeforeYear y + n) (hn : n < yearLength y) :
    date.year = y ∧ date.yearDay = n := by
  have hnext := daysBeforeYear_add_yearLength y
  obtain rfl : date.year = y := year_eq_iff.mpr (by omega)
  refine ⟨rfl, ?_⟩
  rw [yearDay, h]
  omega

theorem yearDay_spec (date : Date) :
    date.number + epoch = daysBeforeYear date.year + date.yearDay ∧
      date.yearDay < yearLength date.year := by
  have hlow := daysBeforeYear_year_le date
  have hhigh := lt_daysBeforeYear_year_succ date
  rw [daysBeforeYear_add_yearLength] at hhigh
  unfold yearDay
  omega

/-- The date with a year, month and day is read as these. -/
theorem civil_of_ofCivil? (h : ofCivil? y m d = some date) :
    date.year = y ∧ date.month = m ∧ date.dayOfMonth = d := by
  unfold ofCivil? at h
  split at h
  · rename_i hday
    cases h
    obtain ⟨i, hi, rfl⟩ := exists_of_monthLength hday.1 hday.2
    rw [monthLength_succ y hi] at hday
    obtain ⟨d, rfl⟩ := Nat.exists_eq_add_of_le' hday.1
    have hwithin : ((monthLengths (isLeapYear y)).take i).sum + d < yearLength y := by
      have hmonth := sum_take_month_le y hi
      omega
    have hnumber : (⟨daysBeforeYear y + daysBeforeMonth y (i + 1) + (d + 1 - 1 : Nat) - epoch⟩ :
        Date).number + epoch =
          daysBeforeYear y + (((monthLengths (isLeapYear y)).take i).sum + d : Nat) := by
      rw [daysBeforeMonth_eq, Nat.add_sub_cancel]
      push_cast
      omega
    obtain ⟨hyear, hyearDay⟩ := of_yearDay hnumber hwithin
    refine ⟨hyear, ?_⟩
    rw [month, dayOfMonth, monthAndDay, hyear, hyearDay, splitYearDay_sum 1 hi (by omega)]
    exact ⟨Nat.add_comm 1 i, rfl⟩
  · cases h

/-- Every date has a year, a month and a day of that month. -/
theorem ofCivil?_civil (date : Date) :
    ofCivil? date.year date.month date.dayOfMonth = some date := by
  obtain ⟨hnumber, hwithin⟩ := yearDay_spec date
  obtain ⟨i, d, hi, hd, hday⟩ := exists_month hwithin
  have hsplit : date.monthAndDay = (1 + i, d + 1) := by
    rw [monthAndDay, hday, splitYearDay_sum 1 hi hd]
  rw [month, dayOfMonth, hsplit]
  dsimp only
  rw [Nat.add_comm 1 i, ofCivil?, monthLength_succ _ hi, if_pos ⟨Nat.le_add_left 1 d, hd⟩,
    daysBeforeMonth_eq, Nat.add_sub_cancel, Nat.add_sub_cancel]
  refine congrArg some (congrArg Date.mk ?_)
  omega

theorem ofCivil?_newYear (y : Int) : ofCivil? y 1 1 = some (newYear y) := by
  have hbefore : daysBeforeMonth y 1 = 0 := rfl
  rw [ofCivil?, if_pos ⟨Nat.le_refl 1, one_le_monthLength y (Nat.zero_lt_succ 11)⟩, hbefore]
  refine congrArg some (congrArg Date.mk ?_)
  omega

/-- **The calendar has each date once**, as the year, month and day that are read off it. -/
theorem ofCivil?_eq_some_iff : ofCivil? y m d = some date ↔
    date.year = y ∧ date.month = m ∧ date.dayOfMonth = d := by
  refine ⟨civil_of_ofCivil?, ?_⟩
  rintro ⟨rfl, rfl, rfl⟩
  exact ofCivil?_civil date

end Civil

end Date

/-! ## 4. The order of dates -/

/-- A year, a month and a day come before others. -/
def IsEarlier (a b : Int × Nat × Nat) : Prop :=
  a.1 < b.1 ∨ a.1 = b.1 ∧ (a.2.1 < b.2.1 ∨ a.2.1 = b.2.1 ∧ a.2.2 < b.2.2)

/-- The day after a day of the calendar. -/
def nextCivil (y : Int) (m d : Nat) : Int × Nat × Nat :=
  if d < monthLength y m then (y, m, d + 1) else if m < 12 then (y, m + 1, 1) else (y + 1, 1, 1)

namespace Date

section Order

variable {date a b : Date} {y y' : Int} {m m' d d' n : Nat}

/-- The year, month and day of a date. -/
def civil (date : Date) : Int × Nat × Nat := (date.year, date.month, date.dayOfMonth)

/-- Where a date is counted from. -/
theorem number_of_ofCivil? (h : ofCivil? y m d = some date) :
    1 ≤ d ∧ date.number + epoch + 1 = daysBeforeYear y + daysBeforeMonth y m + d ∧
      (daysBeforeMonth y m + d : Int) ≤ daysBeforeMonth y (m + 1) ∧
        (daysBeforeMonth y (m + 1) : Int) ≤ yearLength y := by
  unfold ofCivil? at h
  split at h
  · rename_i hday
    cases h
    obtain ⟨i, hi, rfl⟩ := exists_of_monthLength hday.1 hday.2
    rw [monthLength_succ y hi] at hday
    have hmonth := sum_take_month_le y hi
    simp only [daysBeforeMonth_eq, Nat.add_sub_cancel, List.sum_take_succ _ _ hi]
    omega
  · cases h

theorem number_lt_of_isEarlier (h : IsEarlier a.civil b.civil) : a.number < b.number := by
  obtain ⟨hday, hnumber, hmonth, hyear⟩ := number_of_ofCivil? (ofCivil?_civil a)
  obtain ⟨hday', hnumber', hmonth', hyear'⟩ := number_of_ofCivil? (ofCivil?_civil b)
  rcases h with hless | ⟨hsame, hless | ⟨hsame', hless⟩⟩
  · change a.year < b.year at hless
    have hnext := daysBeforeYear_le (Int.add_one_le_of_lt hless)
    rw [daysBeforeYear_add_yearLength] at hnext
    omega
  · change a.year = b.year at hsame
    change a.month < b.month at hless
    have hnext : daysBeforeMonth b.year (a.month + 1) ≤ daysBeforeMonth b.year b.month :=
      sum_take_le (by omega)
    rw [hsame] at hnumber hmonth
    omega
  · change a.year = b.year at hsame
    change a.month = b.month at hsame'
    change a.dayOfMonth < b.dayOfMonth at hless
    rw [hsame, hsame'] at hnumber
    omega

/-- **Dates are counted in the order of their years, months and days.** -/
theorem isEarlier_civil_iff : IsEarlier a.civil b.civil ↔ a.number < b.number := by
  refine ⟨number_lt_of_isEarlier, fun hless => ?_⟩
  by_contra hnot
  have hcases : a.civil = b.civil ∨ IsEarlier b.civil a.civil := by
    simp only [IsEarlier, civil, Prod.mk.injEq] at hnot ⊢
    omega
  rcases hcases with hsame | hearlier
  · simp only [civil, Prod.mk.injEq] at hsame
    cases Option.some.inj ((ofCivil?_eq_some_iff.mpr hsame).symm.trans (ofCivil?_civil b))
    omega
  · have := number_lt_of_isEarlier hearlier
    omega

/-- A day of the calendar by the number it is counted with. -/
theorem civil_eq_of_number (hlow : 1 ≤ d) (hhigh : d ≤ monthLength y m)
    (h : date.number + epoch + 1 = daysBeforeYear y + daysBeforeMonth y m + d) :
    date.civil = (y, m, d) := by
  have hdate : ofCivil? y m d = some date := by
    rw [ofCivil?, if_pos ⟨hlow, hhigh⟩]
    refine congrArg some (congrArg Date.mk ?_)
    omega
  obtain ⟨rfl, rfl, rfl⟩ := civil_of_ofCivil? hdate
  rfl

/-- **The calendar goes on day by day**, from the last day of a month to the first one of the next,
    and from the last day of a year to the first one of the next. -/
theorem civil_next (date : Date) : civil ⟨date.number + 1⟩ =
    nextCivil date.year date.month date.dayOfMonth := by
  have hcivil := ofCivil?_civil date
  obtain ⟨hfirst, hnumber, -, -⟩ := number_of_ofCivil? hcivil
  have hday : date.dayOfMonth ≤ monthLength date.year date.month := by
    by_contra hlarge
    rw [ofCivil?, if_neg (fun h => hlarge h.2)] at hcivil
    cases hcivil
  obtain ⟨i, hi, hmonth⟩ := exists_of_monthLength hfirst hday
  have hlength : monthLength date.year date.month = _ := hmonth ▸ monthLength_succ date.year hi
  have hbefore : daysBeforeMonth date.year (date.month + 1) =
      daysBeforeMonth date.year date.month + monthLength date.year date.month := by
    rw [hlength, daysBeforeMonth_eq, daysBeforeMonth_eq, hmonth]
    exact List.sum_take_succ _ _ hi
  unfold nextCivil
  split
  · exact civil_eq_of_number (by omega) (by omega) (by push_cast; omega)
  · split
    · exact civil_eq_of_number (Nat.le_refl 1) (one_le_monthLength _ (by omega))
        (by push_cast; omega)
    · rw [length_monthLengths] at hi
      have hyear : daysBeforeMonth date.year (date.month + 1) = yearLength date.year := by
        rw [show date.month = 12 by omega]
        rfl
      have hnext := daysBeforeYear_add_yearLength date.year
      have hzero : daysBeforeMonth (date.year + 1) 1 = 0 := rfl
      exact civil_eq_of_number (Nat.le_refl 1) (one_le_monthLength _ (Nat.zero_lt_succ 11))
        (by rw [hzero]; push_cast; omega)

end Order

end Date
end Gridcalc
