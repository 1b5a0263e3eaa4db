/-!
# Calendar dates

The Gregorian calendar, carried back before its introduction. A date is a count of days; the year,
month and day are read off it.

* `Date.ofCivil?` is the date with a given year, month and day, if there is one;
* `Date.year`, `Date.month`, `Date.dayOfMonth` read a date off its count;
* `Date.weekday`, `Date.isoWeek` place it in its week;
* `Moment` is a date with a time of day.
-/

namespace Gridcalc

/-! ## 1. Years and months -/

/-- Every fourth year is a leap year, of the centuries every fourth. -/
def isLeapYear (y : Int) : Bool := y % 4 == 0 && (y % 100 != 0 || y % 400 == 0)

/-- The days from the first of January of the year 1 to the first of January of year `y`. -/
def daysBeforeYear (y : Int) : Int :=
  365 * (y - 1) + (y - 1) / 4 - (y - 1) / 100 + (y - 1) / 400

/-- The lengths of the twelve months. -/
def monthLengths (leap : Bool) : List Nat :=
  [31, if leap then 29 else 28, 31, 30, 31, 30, 31, 31, 30, 31, 30, 31]

/-- The length of a month, counted from one; zero where there is no such month. -/
def monthLength (y : Int) (m : Nat) : Nat :=
  if m = 0 then 0 else (monthLengths (isLeapYear y)).getD (m - 1) 0

/-- The days of the year before a month, counted from one. -/
def daysBeforeMonth (y : Int) (m : Nat) : Nat :=
  ((monthLengths (isLeapYear y)).take (m - 1)).foldr (· + ·) 0

/-- The month, counted from `m`, and the day of that month, counted from one, on which the `n`th
    day from now falls, counted from zero. -/
def splitYearDay (m n : Nat) : List Nat → Nat × Nat
  | [] => (m, n + 1)
  | length :: rest => if n < length then (m, n + 1) else splitYearDay (m + 1) (n - length) rest

/-- A year has 365 days, a leap year one more. -/
theorem daysBeforeYear_succ (y : Int) :
    daysBeforeYear (y + 1) = daysBeforeYear y + 365 + if isLeapYear y then 1 else 0 := by
  simp only [daysBeforeYear, isLeapYear, Bool.and_eq_true, Bool.or_eq_true, beq_iff_eq,
    bne_iff_ne, ne_eq]
  split <;> omega

/-! ## 2. Dates -/

/-- A date: the days after the last day of 1899, so that the first of January 1900 is day 1. -/
structure Date where
  number : Int
  deriving DecidableEq, Repr, Inhabited

namespace Date

/-- The count of the last day of 1899 from the first of January of the year 1. -/
def epoch : Int := daysBeforeYear 1900 - 1

/-- The date with the given year, month and day of the month, where the month has that day. -/
def ofCivil? (y : Int) (m d : Nat) : Option Date :=
  if 1 ≤ d ∧ d ≤ monthLength y m then
    some ⟨daysBeforeYear y + daysBeforeMonth y m + (d - 1 : Nat) - epoch⟩
  else none

/-- The first of January of a year. -/
def newYear (y : Int) : Date := ⟨daysBeforeYear y - epoch⟩

/-- The year of a date: full cycles of 400 years, then full centuries, then full spans of four
    years, then full years. -/
def year (date : Date) : Int :=
  let n := date.number + epoch
  let cycle := n / 146097
  let inCycle := n % 146097
  let century := min (inCycle / 36524) 3
  let inCentury := inCycle - century * 36524
  let span := inCentury / 1461
  let inSpan := inCentury - span * 1461
  let single := min (inSpan / 365) 3
  cycle * 400 + century * 100 + span * 4 + single + 1

/-- The day of the year, counted from zero. -/
def yearDay (date : Date) : Nat := (date.number + epoch - daysBeforeYear date.year).toNat

/-- The month and the day of the month, counted from one. -/
def monthAndDay (date : Date) : Nat × Nat :=
  splitYearDay 1 date.yearDay (monthLengths (isLeapYear date.year))

/-- The month, counted from one. -/
def month (date : Date) : Nat := date.monthAndDay.1

/-- The day of the month, counted from one. -/
def dayOfMonth (date : Date) : Nat := date.monthAndDay.2

/-- The day of the week, Sunday being 0; the last day of 1899 was a Sunday. -/
def weekday (date : Date) : Nat := (date.number % 7).toNat

/-- The week of the year in which weeks start on a Monday and belong to the year that holds their
    Thursday. -/
def isoWeek (date : Date) : Nat :=
  let thursday : Date := ⟨date.number + 3 - (date.number - 1) % 7⟩
  thursday.yearDay / 7 + 1

/-- Full cycles, centuries, spans and years count the leap days before them. -/
theorem daysBeforeYear_split {c h s k : Int} (hh : 0 ≤ h ∧ h ≤ 3) (hs : 0 ≤ s ∧ s ≤ 24)
    (hk : 0 ≤ k ∧ k ≤ 3) :
    daysBeforeYear (c * 400 + h * 100 + s * 4 + k + 1) =
      146097 * c + 36524 * h + 1461 * s + 365 * k := by
  have e : c * 400 + h * 100 + s * 4 + k + 1 - 1 = c * 400 + h * 100 + s * 4 + k := by omega
  have e4 : (c * 400 + h * 100 + s * 4 + k) / 4 = 100 * c + 25 * h + s := by omega
  have e100 : (c * 400 + h * 100 + s * 4 + k) / 100 = 4 * c + h := by omega
  have e400 : (c * 400 + h * 100 + s * 4 + k) / 400 = c := by omega
  simp only [daysBeforeYear, e, e4, e100, e400]
  omega

/-- A year starts at or before each of its days. -/
theorem daysBeforeYear_year_le (date : Date) :
    daysBeforeYear date.year ≤ date.number + epoch := by
  simp only [year]
  generalize date.number + epoch = n
  have hc := Int.emod_nonneg n (show (146097 : Int) ≠ 0 by decide)
  have hc' := Int.emod_lt_of_pos n (show (0 : Int) < 146097 by decide)
  have hn := Int.mul_ediv_add_emod n 146097
  generalize n / 146097 = c at *
  generalize n % 146097 = r at *
  have hh : 0 ≤ min (r / 36524) 3 ∧ min (r / 36524) 3 ≤ 3 ∧
      36524 * min (r / 36524) 3 ≤ r ∧ r - 36524 * min (r / 36524) 3 ≤ 36524 := by omega
  generalize min (r / 36524) 3 = h at *
  have hs : 0 ≤ (r - h * 36524) / 1461 ∧ (r - h * 36524) / 1461 ≤ 24 ∧
      1461 * ((r - h * 36524) / 1461) ≤ r - h * 36524 := by omega
  generalize (r - h * 36524) / 1461 = s at *
  have hk : 0 ≤ min ((r - h * 36524 - s * 1461) / 365) 3 ∧
      min ((r - h * 36524 - s * 1461) / 365) 3 ≤ 3 ∧
      365 * min ((r - h * 36524 - s * 1461) / 365) 3 ≤ r - h * 36524 - s * 1461 := by omega
  generalize min ((r - h * 36524 - s * 1461) / 365) 3 = k at *
  rw [daysBeforeYear_split ⟨hh.1, hh.2.1⟩ ⟨hs.1, hs.2.1⟩ ⟨hk.1, hk.2.1⟩]
  omega

theorem weekday_lt (date : Date) : date.weekday < 7 := by
  simp only [weekday]; omega

end Date

/-! ## 3. Moments -/

/-- A date with a time of day: whole seconds since midnight, and the billionths after them. The
    last second of a minute may hold two billion of them, when a leap second follows it. -/
structure Moment where
  date : Date
  second : Nat
  nano : Nat
  deriving DecidableEq, Repr, Inhabited

namespace Moment

def hour (t : Moment) : Nat := t.second / 3600

def minute (t : Moment) : Nat := t.second / 60 % 60

def secondOfMinute (t : Moment) : Nat := t.second % 60

/-- Whether it is midnight exactly. -/
def isMidnight (t : Moment) : Bool := t.second == 0 && t.nano == 0

end Moment

end Gridcalc
