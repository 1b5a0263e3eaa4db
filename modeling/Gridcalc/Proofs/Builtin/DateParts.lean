import Gridcalc.Proofs.Calendar.Serials
import Gridcalc.Proofs.Evaluation.Yields
import Gridcalc.Proofs.Workbook.SortKeys

/-!
# Dates put together and taken apart

`DATE` makes a serial of a year, a month and a day, and a serial is read as these again.

* `YieldsInteger`: the trees that come to an integer;
* `CarriesTo`: the date that a year, a month and a day come to, which may lie outside of their usual
  ranges;
* `yields_date`, `yields_civilPart`: what the functions give;
* `serials_roundTrip`: **dates and their serials, there and back**, and the serials that `DATE`
  gives.
-/

namespace Gridcalc

open Builtin

/-! ## 1. Carried months and days -/

/-- The date that a year, a month and a day come to: months carry into years, and days count on from
    the first of the month, forwards or backwards. -/
def CarriesTo (y m d : Int) (date : Date) : Prop :=
  ∃ first, Date.ofCivil? (y + (m - 1) / 12) (((m - 1) % 12).toNat + 1) 1 = some first ∧
    date.number = first.number + (d - 1)

section Carrying

variable {y m d k : Int} {date : Date}

/-- Every year, month and day come to one date. -/
theorem existsUnique_carriesTo (y m d : Int) : ∃! date, CarriesTo y m d date := by
  have hmonth : ((m - 1) % 12).toNat < 12 := by omega
  obtain ⟨first, hfirst⟩ : ∃ first,
      Date.ofCivil? (y + (m - 1) / 12) (((m - 1) % 12).toNat + 1) 1 = some first :=
    ⟨_, if_pos ⟨Nat.le_refl 1, one_le_monthLength _ hmonth⟩⟩
  refine ⟨⟨first.number + (d - 1)⟩, ⟨first, hfirst, rfl⟩, ?_⟩
  intro ⟨number⟩ ⟨first', hfirst', hnumber⟩
  cases Option.some.inj (hfirst'.symm.trans hfirst)
  exact congrArg Date.mk hnumber

/-- Twelve months are a year. -/
theorem carriesTo_add_years : CarriesTo y (m + 12 * k) d date ↔ CarriesTo (y + k) m d date := by
  have hyear : y + (m + 12 * k - 1) / 12 = y + k + (m - 1) / 12 := by omega
  have hmonth : (m + 12 * k - 1) % 12 = (m - 1) % 12 := by omega
  unfold CarriesTo
  rw [hyear, hmonth]

/-- A serial that is put together is that of the date, if the system has it. -/
theorem serialOfParts?_eq (hlow : 1900 ≤ y) (hhigh : y ≤ 9999) (hm : |m| ≤ 10 ^ 6)
    (h : CarriesTo y m d date) : serialOfParts? y m d =
      if 0 ≤ date.serial ∧ date.serial < serialLimit then some date.serial else none := by
  obtain ⟨first, hfirst, hnumber⟩ := h
  obtain ⟨hmlow, hmhigh⟩ := abs_le.mp hm
  have hdate : (⟨first.number + (d - 1)⟩ : Date) = date := congrArg Date.mk hnumber.symm
  have hyear : (y * 12 + (m - 1)) / 12 = y + (m - 1) / 12 := by omega
  have hmonth : (y * 12 + (m - 1)) % 12 = (m - 1) % 12 := by omega
  have hcalendar : yearInCalendar (y + (m - 1) / 12) = true := decide_eq_true (by omega)
  unfold serialOfParts?
  dsimp only
  rw [if_neg (show ¬(0 ≤ y ∧ y < 1900) by omega), if_neg (by omega), hyear, hmonth,
    if_pos hcalendar, hfirst]
  dsimp only
  rw [hdate]

end Carrying

/-! ## 2. What the functions give -/

/-- The tree comes to a number that is an integer, wherever it stands in a formula. -/
def YieldsInteger (ctx : Context) (e : Expr) (k : Int) : Prop :=
  ∃ x, Yields ctx e (.number x) ∧ IsInteger x k

theorem yieldsInteger_number (ctx : Context) {k : Int} (h : k.natAbs < 2 ^ 53) :
    YieldsInteger ctx (.number (Float.ofInt k)) k :=
  ⟨_, yields_number _ _, isInteger_ofInt h⟩

section Functions

variable {ctx : Context} {ey em ed es : Expr} {y m d k n : Int} {date : Date}

/-- **The serial of a year, a month and a day**, or an error where the system has none. -/
theorem yields_date (hey : YieldsInteger ctx ey y) (hem : YieldsInteger ctx em m)
    (hed : YieldsInteger ctx ed d) (hlow : 1900 ≤ y) (hhigh : y ≤ 9999) (hm : |m| ≤ 10 ^ 6)
    (hd : |d| ≤ 10 ^ 9) (h : CarriesTo y m d date) :
    Yields ctx (.call "DATE" [ey, em, ed])
      (if 0 ≤ date.serial ∧ date.serial ≤ 2958465 then .number (Float.ofInt date.serial)
        else .error .num) := by
  obtain ⟨x, hx, hy⟩ := hey
  obtain ⟨x', hx', hm'⟩ := hem
  obtain ⟨x'', hx'', hd'⟩ := hed
  obtain ⟨hmlow, hmhigh⟩ := abs_le.mp hm
  obtain ⟨hdlow, hdhigh⟩ := abs_le.mp hd
  refine Yields.call (f := scalarBuiltin "DATE" 3 (some 3) dateOfParts) rfl rfl (by rfl)
    (.cons hx (.cons hx' (.cons hx'' .nil))) (by simp [Value.isError]) fun path => ?_
  show Outcome.settle (.orRefuse .num (serialOfParts? (toWord (wholeOf x)) (toWord (wholeOf x'))
    (toWord (wholeOf x''))) >>= fun serial => numberResult (Float.ofInt serial)) = _
  rw [hy.wholeOf.toWord_eq (by omega) (by omega), hm'.wholeOf.toWord_eq (by omega) (by omega),
    hd'.wholeOf.toWord_eq (by omega) (by omega), serialOfParts?_eq hlow hhigh hm h]
  have hlimit : date.serial < serialLimit ↔ date.serial ≤ 2958465 := by
    unfold serialLimit
    omega
  by_cases hwithin : 0 ≤ date.serial ∧ date.serial < serialLimit
  · rw [if_pos hwithin, if_pos ⟨hwithin.1, hlimit.mp hwithin.2⟩]
    rfl
  · rw [if_neg hwithin, if_neg fun h => hwithin ⟨h.1, hlimit.mpr h.2⟩]
    rfl

/-- A part of the date of a serial. -/
theorem yields_civilPart {name : String} (part : Int × Nat × Nat → Int)
    (hfind : findBuiltin? name = some (scalarBuiltin name 1 (some 1) (civilPart part)))
    (hes : YieldsInteger ctx es n) (hlow : 0 ≤ n) (hhigh : n < serialLimit) :
    Yields ctx (.call name [es]) (.number (Float.ofInt (part (civilOfSerialDay n)))) := by
  obtain ⟨x, hx, hn⟩ := hes
  obtain ⟨hserial, hday⟩ := hn.isSerial hlow hhigh
  refine Yields.call hfind rfl (by rfl) (.cons hx .nil) (by simp [Value.isError]) fun path => ?_
  show Outcome.settle ((if isSerial x then .ok x else .refuse .num : Outcome Float) >>= fun x =>
    .orRefuse .num (civilOfSerial? x) >>= fun civil => numberResult (Float.ofInt (part civil))) = _
  rw [if_pos hserial]
  show Outcome.settle (.orRefuse .num (civilOfSerial? x) >>= fun civil =>
    numberResult (Float.ofInt (part civil))) = _
  rw [civilOfSerial?_eq hserial, hday]
  rfl

end Functions

/-! ## 3. There and back -/

/-- **Dates and their serials, there and back.** Among the dates of the years 1900 to 9999,

    * the year, month and day of a date are found again from its serial;
    * a later date has a greater serial;
    * the serials are the integers from 1 to 2958465 without 60;
    * `DATE` gives the serial of the date that its arguments come to, with months carried into years
      and days counted on, and an error exactly if that serial is negative or greater than 2958465;
    * so that twelve months more are the same as a year more. -/
theorem serials_roundTrip :
    (∀ y m d date, 1900 ≤ y → y ≤ 9999 → Date.ofCivil? y m d = some date →
      civilOfSerial? (Float.ofInt date.serial) = some (y, m, d)) ∧
    (∀ y m d date y' m' d' date', Date.ofCivil? y m d = some date →
      Date.ofCivil? y' m' d' = some date' → IsEarlier (y, m, d) (y', m', d') →
      date.serial < date'.serial) ∧
    (∀ n, (∃ y m d date, 1900 ≤ y ∧ y ≤ 9999 ∧ Date.ofCivil? y m d = some date ∧ date.serial = n) ↔
      1 ≤ n ∧ n ≤ 2958465 ∧ n ≠ 60) ∧
    (∀ ctx ey em ed y m d, YieldsInteger ctx ey y → YieldsInteger ctx em m →
      YieldsInteger ctx ed d → 1900 ≤ y → y ≤ 9999 → |m| ≤ 10 ^ 6 → |d| ≤ 10 ^ 9 →
      ∃ date, CarriesTo y m d date ∧ Yields ctx (.call "DATE" [ey, em, ed])
        (if 0 ≤ date.serial ∧ date.serial ≤ 2958465 then .number (Float.ofInt date.serial)
          else .error .num)) ∧
    (∀ ctx ey em ey' em' ed y m d k, YieldsInteger ctx ey y → YieldsInteger ctx em m →
      YieldsInteger ctx ed d → YieldsInteger ctx ey' (y + k) → YieldsInteger ctx em' (m + 12 * k) →
      1900 ≤ y → y ≤ 9999 → 1900 ≤ y + k → y + k ≤ 9999 → |m| ≤ 10 ^ 6 → |m + 12 * k| ≤ 10 ^ 6 →
      |d| ≤ 10 ^ 9 → ∃ v, Yields ctx (.call "DATE" [ey, em', ed]) v ∧
        Yields ctx (.call "DATE" [ey', em, ed]) v) := by
  refine ⟨fun y m d date hlow hhigh hdate => ?_, fun y m d date y' m' d' date' hdate hdate' h => ?_,
    fun n => ?_, fun ctx ey em ed y m d hey hem hed hlow hhigh hm hd => ?_,
    fun ctx ey em ey' em' ed y m d k hey hem hed hey' hem' hlow hhigh hlow' hhigh' hm hm' hd => ?_⟩
  · obtain ⟨rfl, rfl, rfl⟩ := Date.civil_of_ofCivil? hdate
    have hnumber := date.number_bounds.mp ⟨hlow, hhigh⟩
    obtain ⟨hfirst, hlast, -⟩ := exists_serial_iff.mp ⟨date, ⟨hlow, hhigh⟩, rfl⟩
    obtain ⟨hserial, hday⟩ := (isInteger_ofInt (k := date.serial) (by omega)).isSerial (by omega)
      (by unfold serialLimit; omega)
    rw [civilOfSerial?_eq hserial, hday, civilOfSerialDay_serial hnumber.1]
    rfl
  · obtain ⟨rfl, rfl, rfl⟩ := Date.civil_of_ofCivil? hdate
    obtain ⟨rfl, rfl, rfl⟩ := Date.civil_of_ofCivil? hdate'
    exact serial_lt_serial (Date.isEarlier_civil_iff.mp h)
  · show _ ↔ 1 ≤ n ∧ n ≤ 2958465 ∧ n ≠ phantomDay
    rw [← exists_serial_iff]
    constructor
    · intro ⟨y, m, d, date, hlow, hhigh, hdate, hserial⟩
      obtain ⟨rfl, -, -⟩ := Date.civil_of_ofCivil? hdate
      exact ⟨date, ⟨hlow, hhigh⟩, hserial⟩
    · intro ⟨date, ⟨hlow, hhigh⟩, hserial⟩
      exact ⟨_, _, _, date, hlow, hhigh, Date.ofCivil?_civil date, hserial⟩
  · obtain ⟨date, hdate, -⟩ := existsUnique_carriesTo y m d
    exact ⟨date, hdate, yields_date hey hem hed hlow hhigh hm hd hdate⟩
  · obtain ⟨date, hdate, -⟩ := existsUnique_carriesTo (y + k) m d
    exact ⟨_, yields_date hey hem' hed hlow hhigh hm' hd (carriesTo_add_years.mpr hdate),
      yields_date hey' hem hed hlow' hhigh' hm hd hdate⟩

/-- The first of March 1900, and a thirteenth month. -/
theorem serials_roundTrip_carried :
    civilOfSerial? (Float.ofInt 61) = some (1900, 3, 1) ∧ ∃ v,
      Yields emptyContext (.call "DATE" [.number (Float.ofInt 2023), .number (Float.ofInt 13),
        .number (Float.ofInt 15)]) v ∧
      Yields emptyContext (.call "DATE" [.number (Float.ofInt 2024), .number (Float.ofInt 1),
        .number (Float.ofInt 15)]) v ∧
      Yields emptyContext (.call "DATE" [.number (Float.ofInt 2023), .number (Float.ofInt 13),
        .number (Float.ofInt 15)]) (.number (Float.ofInt 45306)) := by
  obtain ⟨hcivil, -, -, hdate, hcarry⟩ := serials_roundTrip
  have hnumber {k : Int} (h : k.natAbs < 2 ^ 53) := yieldsInteger_number emptyContext h
  obtain ⟨v, hv, hv'⟩ := hcarry _ _ _ _ _ _ 2023 1 15 1 (hnumber (by decide)) (hnumber (by decide))
    (hnumber (by decide)) (hnumber (by decide)) (hnumber (by decide)) (by decide) (by decide)
    (by decide) (by decide) (by decide) (by decide) (by decide)
  obtain ⟨date, hcarried, hyields⟩ := hdate _ _ _ _ 2023 13 15 (hnumber (by decide))
    (hnumber (by decide)) (hnumber (by decide)) (by decide) (by decide) (by decide) (by decide)
  obtain rfl : date = ⟨45305⟩ :=
    (existsUnique_carriesTo 2023 13 15).unique hcarried ⟨⟨45291⟩, by decide, by decide⟩
  exact ⟨hcivil 1900 3 1 ⟨60⟩ (by decide) (by decide) (by decide), v, hv, hv', hyields⟩

end Gridcalc
