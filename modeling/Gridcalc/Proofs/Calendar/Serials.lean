import Gridcalc.Calendar.Serial
import Gridcalc.Proofs.Calendar.Gregorian
import Gridcalc.Proofs.Number.Integers

/-!
# Serials and the dates they stand for

A serial is read in two ways: as a year, month and day, and as a moment. Both find the date that a
whole serial was made from; only the day that no calendar has is read by each in its own way.

* `isSerial_iff`, `HasWholePart.serialDay_eq`: which numbers are serials, and of which day;
* `Date.number_bounds`, `civilOfSerialDay_serial`, `exists_serial_iff`: the dates of the years 1900
  to 9999 and their serials;
* `civilOfSerial?_eq`, `momentOfSerial?_eq`: the two readings;
* `momentOfSerial?_agrees_iff`: **they agree on every other day**, and only the phantom day shares
  its date with another day.
-/

namespace Gridcalc

/-! ## 1. Numbers that are serials -/

section Numbers

variable {x : Float} {n : Nat} {k : Int}

/-- **A number is a serial** if it has a whole part and that is a day of the system. -/
theorem isSerial_iff :
    isSerial x = true ↔ ∃ n : Nat, HasWholePart x n ∧ (n : Int) < serialLimit := by
  have hlimit (n : Nat) : n < 2958466 ↔ (n : Int) < serialLimit := by
    unfold serialLimit
    omega
  simp only [isSerial, Bool.and_eq_true, decide_eq_true_eq]
  constructor
  · intro ⟨⟨hfinite, hlow⟩, hhigh⟩
    obtain ⟨n, hn⟩ := exists_hasWholePart hfinite hlow
    exact ⟨n, hn, (hlimit n).mp ((hn.lt_ofNat_iff (k := 2958466) (by decide)).mp hhigh)⟩
  · intro ⟨n, hn, hlt⟩
    exact ⟨⟨hn.isFinite_eq, (hn.ofNat_le_iff (k := 0) (by decide)).mpr (Nat.zero_le n)⟩,
      (hn.lt_ofNat_iff (k := 2958466) (by decide)).mpr ((hlimit n).mpr hlt)⟩

/-- The day of a serial is its whole part. -/
theorem HasWholePart.serialDay_eq (h : HasWholePart x n) (hn : (n : Int) < serialLimit) :
    serialDay x = n := by
  unfold serialLimit at hn
  exact (h.floorOf (by omega)).toWord_eq (by omega) (by omega)

/-- An integer that is a day of the system. -/
theorem IsInteger.isSerial (h : IsInteger x k) (hlow : 0 ≤ k) (hhigh : k < serialLimit) :
    isSerial x = true ∧ serialDay x = k := by
  obtain ⟨n, rfl⟩ := Int.eq_ofNat_of_zero_le hlow
  have hwhole := h.hasWholePart
  exact ⟨isSerial_iff.mpr ⟨n, hwhole, hhigh⟩, hwhole.serialDay_eq hhigh⟩

/-- The days from the first one up to the end of the system. -/
theorem serialDay_bounds (hlow : 1 ≤ x) (hhigh : x < Float.ofInt serialLimit) :
    isSerial x = true ∧ 1 ≤ serialDay x ∧ serialDay x < serialLimit := by
  have hzero := zero_le_of_one_le hlow
  obtain ⟨n, hn⟩ := exists_hasWholePart (isFinite_of_lt hzero hhigh) hzero
  have hone := (hn.ofNat_le_iff (k := 1) (by decide)).mp hlow
  have hlimit : (n : Int) < serialLimit := by
    have hless := (hn.lt_ofNat_iff (k := 2958466) (by decide)).mp hhigh
    unfold serialLimit
    omega
  rw [hn.serialDay_eq hlimit]
  exact ⟨isSerial_iff.mpr ⟨n, hn, hlimit⟩, by omega, hlimit⟩

end Numbers

/-! ## 2. Dates with serials -/

section Dates

variable {date : Date} {y : Int} {m d : Nat} {n : Int}

/-- The years 1900 to 9999 by their days. -/
theorem Date.number_bounds (date : Date) :
    1900 ≤ date.year ∧ date.year ≤ 9999 ↔ 1 ≤ date.number ∧ date.number ≤ 2958464 := by
  have hlow := daysBeforeYear_year_le date
  have hhigh := lt_daysBeforeYear_year_succ date
  have hfirst : daysBeforeYear 1900 = Date.epoch + 1 := rfl
  have hlast : daysBeforeYear 10000 = Date.epoch + 2958465 := rfl
  constructor
  · intro ⟨hfrom, hto⟩
    have := daysBeforeYear_le hfrom
    have := daysBeforeYear_le (show date.year + 1 ≤ 10000 by omega)
    omega
  · intro ⟨hfrom, hto⟩
    constructor
    · by_contra hless
      have := daysBeforeYear_le (show date.year + 1 ≤ 1900 by omega)
      omega
    · by_contra hgreater
      have := daysBeforeYear_le (show 10000 ≤ date.year by omega)
      omega

/-- A whole serial is that of its date, the phantom day aside. -/
theorem serial_dateOfSerialDay (h : n ≠ phantomDay) : (dateOfSerialDay n).serial = n := by
  unfold dateOfSerialDay Date.serial
  dsimp only
  unfold phantomDay at *
  split <;> split <;> omega

/-- The year, month and day of a whole serial are those of its date, the phantom day aside. -/
theorem civilOfSerialDay_eq (hlow : 1 ≤ n) (hphantom : n ≠ phantomDay) :
    civilOfSerialDay n = (dateOfSerialDay n).civil := by
  rw [civilOfSerialDay, if_neg hphantom, if_neg (by omega)]
  rfl

/-- **A date is found again from its serial**, as its year, month and day. -/
theorem civilOfSerialDay_serial (h : 1 ≤ date.number) :
    civilOfSerialDay date.serial = date.civil := by
  have hserial : 1 ≤ date.serial := by
    unfold Date.serial
    split <;> omega
  rw [civilOfSerialDay_eq hserial (serial_ne_phantomDay date), dateOfSerialDay_serial]

/-- **The serials of the years 1900 to 9999** are all days of the system but the phantom day. -/
theorem exists_serial_iff :
    (∃ date : Date, (1900 ≤ date.year ∧ date.year ≤ 9999) ∧ date.serial = n) ↔
      1 ≤ n ∧ n ≤ 2958465 ∧ n ≠ phantomDay := by
  simp only [Date.number_bounds]
  constructor
  · rintro ⟨date, hbounds, rfl⟩
    refine ⟨?_, ?_, serial_ne_phantomDay date⟩ <;>
      · unfold Date.serial
        split <;> omega
  · intro ⟨hlow, hhigh, hphantom⟩
    refine ⟨dateOfSerialDay n, ?_, serial_dateOfSerialDay hphantom⟩
    unfold dateOfSerialDay phantomDay
    dsimp only
    split <;> omega

end Dates

/-! ## 3. The two readings -/

section Readings

variable {x x' : Float} {n n' : Int} {t t' : Moment}

theorem civilOfSerial?_eq (h : isSerial x = true) :
    civilOfSerial? x = some (civilOfSerialDay (serialDay x)) := if_pos h

theorem momentOfSerial?_eq (h : isSerial x = true) : momentOfSerial? x =
    some ⟨dateOfSerialDay (max (serialDay x) 1),
      secondOfFraction (x - Float.ofInt (serialDay x)), 0⟩ := if_pos h

/-- The phantom day shares its date with the day after it; no other days share one. -/
theorem dateOfSerialDay_eq_iff : dateOfSerialDay n = dateOfSerialDay n' ↔
    n = n' ∨ n = phantomDay ∧ n' = phantomDay + 1 ∨ n = phantomDay + 1 ∧ n' = phantomDay := by
  simp only [dateOfSerialDay, Date.mk.injEq]
  split <;> split <;> omega

theorem civil_phantomDay : civilOfSerialDay phantomDay = (1900, 2, 29) ∧
    (dateOfSerialDay phantomDay).civil = (1900, 3, 1) := by
  decide

/-- **The two readings of a serial agree** on every day from the first one on but the phantom day.
    That day is the 29th of February 1900 for the one, and for the other the first of March, which
    is the date of the day after it as well; no other two days have one date. -/
theorem momentOfSerial?_agrees_iff (hlow : 1 ≤ x) (hhigh : x < Float.ofInt serialLimit) :
    ∃ t, momentOfSerial? x = some t ∧
      (civilOfSerial? x = some t.date.civil ↔ serialDay x ≠ phantomDay) ∧
      (serialDay x = phantomDay → civilOfSerial? x = some (1900, 2, 29) ∧
        t.date.civil = (1900, 3, 1)) ∧
      ∀ x' t', 1 ≤ x' → x' < Float.ofInt serialLimit → momentOfSerial? x' = some t' →
        (t.date = t'.date ↔ serialDay x = serialDay x' ∨
          serialDay x = phantomDay ∧ serialDay x' = phantomDay + 1 ∨
          serialDay x = phantomDay + 1 ∧ serialDay x' = phantomDay) := by
  obtain ⟨hserial, hfirst, -⟩ := serialDay_bounds hlow hhigh
  rw [civilOfSerial?_eq hserial, momentOfSerial?_eq hserial, Int.max_eq_left hfirst]
  refine ⟨_, rfl, ?_, ?_, fun x' t' hlow' hhigh' hmoment => ?_⟩
  · rw [Option.some_inj]
    constructor
    · intro hagree hphantom
      rw [hphantom, civil_phantomDay.1, civil_phantomDay.2] at hagree
      exact absurd hagree (by decide)
    · exact civilOfSerialDay_eq hfirst
  · intro hphantom
    rw [hphantom]
    exact ⟨congrArg some civil_phantomDay.1, civil_phantomDay.2⟩
  · obtain ⟨hserial', hfirst', -⟩ := serialDay_bounds hlow' hhigh'
    rw [momentOfSerial?_eq hserial', Int.max_eq_left hfirst'] at hmoment
    cases hmoment
    exact dateOfSerialDay_eq_iff

/-- The phantom day and the day after it: noon of the one and midnight of the other. -/
theorem momentOfSerial?_agrees_phantomDay : ∃ t t',
    momentOfSerial? 60.5 = some t ∧ momentOfSerial? 61 = some t' ∧ t.date = t'.date ∧
      civilOfSerial? 60.5 = some (1900, 2, 29) ∧ civilOfSerial? 61 = some t'.date.civil := by
  have hday : serialDay 60.5 = phantomDay := by rfl
  have hday' : serialDay 61 = phantomDay + 1 := by rfl
  obtain ⟨t, ht, -, hphantom, hdates⟩ :=
    momentOfSerial?_agrees_iff (x := 60.5) (by decide) (by decide)
  obtain ⟨t', ht', hcivil, -, -⟩ := momentOfSerial?_agrees_iff (x := 61) (by decide) (by decide)
  exact ⟨t, t', ht, ht',
    (hdates 61 t' (by decide) (by decide) ht').mpr (.inr (.inl ⟨hday, hday'⟩)),
    (hphantom hday).1, hcivil.mpr (by rw [hday']; decide)⟩

end Readings

end Gridcalc
