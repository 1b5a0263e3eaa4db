import Gridcalc.Calendar.Date
import Gridcalc.Number.Binary

/-!
# Serial dates

Formulas hold dates as numbers in the 1900 system: whole days with 1900-01-01 as day 1, and the
time of day as the fraction. The system counts a 29th of February 1900 that no calendar has, as
day 60, so every date from the first of March on is one day later than a plain count.

* `Date.serial` and `dateOfSerialDay` go between dates and whole serials;
* `Moment.serial` and `momentOfSerial?` do so for moments;
* `civilOfSerial?` names the year, month and day of a serial, the phantom day included;
* `serialOfParts?` carries months into years and days into months.
-/

namespace Gridcalc

/-! ## 1. Whole days -/

/-- The serial of the day that no calendar has. -/
def phantomDay : Int := 60

/-- The first serial past the last day of the year 9999. -/
def serialLimit : Int := 2958466

/-- The whole serial of a date. -/
def Date.serial (date : Date) : Int :=
  if phantomDay ≤ date.number then date.number + 1 else date.number

/-- The date of a whole serial. The phantom day gives the day after it. -/
def dateOfSerialDay (n : Int) : Date := ⟨if phantomDay < n then n - 1 else n⟩

/-- The year, month and day of a whole serial. The phantom day is the 29th of February 1900, and
    day zero is day zero of January 1900. -/
def civilOfSerialDay (n : Int) : Int × Nat × Nat :=
  if n = phantomDay then (1900, 2, 29)
  else if n = 0 then (1900, 1, 0)
  else
    let date := dateOfSerialDay n
    (date.year, date.month, date.dayOfMonth)

theorem serial_of_lt {date : Date} (h : date.number < phantomDay) : date.serial = date.number := by
  simp [Date.serial, Int.not_le.mpr h]

theorem serial_of_le {date : Date} (h : phantomDay ≤ date.number) :
    date.serial = date.number + 1 := by
  simp [Date.serial, h]

/-- A date is found again from its serial. -/
theorem dateOfSerialDay_serial (date : Date) : dateOfSerialDay date.serial = date := by
  rcases Int.lt_or_le date.number phantomDay with h | h
  · simp [serial_of_lt h, dateOfSerialDay, Int.not_lt.mpr (Int.le_of_lt h)]
  · have : phantomDay < date.number + 1 := by omega
    simp [serial_of_le h, dateOfSerialDay, this]

/-- No date has the phantom day as its serial. -/
theorem serial_ne_phantomDay (date : Date) : date.serial ≠ phantomDay := by
  rcases Int.lt_or_le date.number phantomDay with h | h
  · rw [serial_of_lt h]; omega
  · rw [serial_of_le h]; omega

/-- Later dates have greater serials. -/
theorem serial_lt_serial {a b : Date} (h : a.number < b.number) : a.serial < b.serial := by
  rcases Int.lt_or_le a.number phantomDay with ha | ha <;>
    rcases Int.lt_or_le b.number phantomDay with hb | hb
  · rwa [serial_of_lt ha, serial_of_lt hb]
  · rw [serial_of_lt ha, serial_of_le hb]; omega
  · omega
  · rw [serial_of_le ha, serial_of_le hb]; omega

/-! ## 2. Parts of a date -/

/-- The years that a date may fall in while it is put together. -/
def yearInCalendar (y : Int) : Bool := decide (-262143 ≤ y ∧ y ≤ 262142)

/-- The serial of a year, a month and a day that need not lie in their usual ranges: months carry
    into years, and days count on from the first of the month. Years up to 1899 count from 1900.
    There is no serial before day 0 or after the year 9999. -/
def serialOfParts? (y m d : Int) : Option Int :=
  let y := if 0 ≤ y ∧ y < 1900 then y + 1900 else y
  if y < 1900 ∨ 9999 < y then none
  else
    let months := y * 12 + (m - 1)
    if yearInCalendar (months / 12) then
      match Date.ofCivil? (months / 12) ((months % 12).toNat + 1) 1 with
      | none => none
      | some first =>
        let serial := Date.serial ⟨first.number + (d - 1)⟩
        if 0 ≤ serial ∧ serial < serialLimit then some serial else none
    else none

/-! ## 3. Moments -/

/-- The serial of a moment. -/
def Moment.serial (t : Moment) : Float :=
  let seconds := Float.ofNat t.second + Float.ofNat t.nano / 1000000000
  Float.ofInt t.date.serial + seconds / 86400

/-- Whether a number is the serial of a moment that can be named. -/
def isSerial (x : Float) : Bool := x.isFinite && 0 ≤ x && x < Float.ofInt serialLimit

/-- The whole days of a serial. -/
def serialDay (x : Float) : Int := toWord (floorOf x)

/-- The second of the day nearest to a fraction of a day; midnight at the end of the day is its
    last second. -/
def secondOfFraction (x : Float) : Nat :=
  let part := fractionOf x
  let part := if part < 0 then part + 1 else part
  min (truncateWithin 0 (twoTo 32 - 1) (roundOf (part * 86400))).toNat 86399

/-- The year, month and day of a serial. -/
def civilOfSerial? (x : Float) : Option (Int × Nat × Nat) :=
  if isSerial x then some (civilOfSerialDay (serialDay x)) else none

/-- The moment of a serial; day zero is read as day 1. -/
def momentOfSerial? (x : Float) : Option Moment :=
  if isSerial x then
    let n := serialDay x
    some ⟨dateOfSerialDay (max n 1), secondOfFraction (x - Float.ofInt n), 0⟩
  else none

theorem secondOfFraction_lt (x : Float) : secondOfFraction x < 86400 := by
  simp only [secondOfFraction]; omega

end Gridcalc
