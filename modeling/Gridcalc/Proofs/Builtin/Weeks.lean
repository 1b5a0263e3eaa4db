import Gridcalc.Proofs.Builtin.DateParts

/-!
# Weeks

`WEEKDAY` counts from the serial itself, `WEEKNUM` from the first of January, which it gets through
the calendar. Both stay in step: a week begins with the first of its days, whatever day that is.

* `weekKinds`, `WeeksFrom`: the kinds of weeks, and the trees that ask for one;
* `newYear_serial_le`: a year begins on or before each of its days, the phantom day included;
* `yields_weekday`, `yields_weekNumber`: what the functions give;
* `weekOfYear_succ`: the week of the next day;
* `weeks_consistent`: **weeks and the days of the week are in step**.
-/

namespace Gridcalc

open Builtin

/-! ## 1. Kinds of weeks -/

/-- The kinds of weeks that are counted from the first of January. -/
def weekKinds : List Int := [1, 2, 11, 12, 13, 14, 15, 16, 17]

/-- The arguments behind a serial ask for a kind of week, which is the first one if they do not. -/
def WeeksFrom (ctx : Context) (rest : List Expr) (kind : Int) : Prop :=
  rest = [] ∧ kind = 1 ∨ ∃ e, rest = [e] ∧ YieldsInteger ctx e kind

section Kinds

variable {ctx : Context} {rest : List Expr} {kind : Int}

theorem weekStart_of_mem (h : kind ∈ weekKinds) : ∃ start, weekStart? kind = some start := by
  have hsome : ∀ kind ∈ weekKinds, (weekStart? kind).isSome = true := by decide
  exact Option.isSome_iff_exists.mp (hsome kind h)

theorem weekKinds_bounds (h : kind ∈ weekKinds) : 1 ≤ kind ∧ kind ≤ 17 ∧ kind ≠ 3 := by
  revert h kind
  decide

/-- The kind as the functions read it. -/
theorem WeeksFrom.values (h : WeeksFrom ctx rest kind) : ∃ vs x,
    List.Forall₂ (Yields ctx) rest vs ∧ (∀ v ∈ vs, v.isError = false) ∧ rest.length ≤ 1 ∧
      (∀ v : Value, numberAtOr ((v :: vs).map .value) 1 1 = .ok x) ∧ IsInteger x kind := by
  rcases h with ⟨rfl, rfl⟩ | ⟨e, rfl, x, hx, hkind⟩
  · exact ⟨[], 1, .nil, nofun, Nat.zero_le 1, fun _ => rfl, isInteger_ofInt (k := 1) (by decide)⟩
  · exact ⟨[.number x], x, .cons hx .nil, by simp [Value.isError], Nat.le_refl 1, fun _ => rfl,
      hkind⟩

end Kinds

/-! ## 2. The week of a day -/

section Weeks

variable {n first start : Int} {date : Date}

/-- The first of January of the year that a whole serial falls in comes no later. -/
theorem newYear_serial_le (h : 1 ≤ n) :
    (Date.newYear (civilOfSerialDay n).1).serial ≤ n := by
  by_cases hphantom : n = phantomDay
  · subst hphantom
    decide
  · rw [civilOfSerialDay_eq h hphantom]
    have hyear := Date.daysBeforeYear_year_le (dateOfSerialDay n)
    conv_rhs => rw [← serial_dateOfSerialDay hphantom]
    show (Date.newYear (dateOfSerialDay n).year).serial ≤ _
    rcases Int.lt_or_eq_of_le (show (Date.newYear (dateOfSerialDay n).year).number ≤
      (dateOfSerialDay n).number by unfold Date.newYear; dsimp only; omega) with hless | hequal
    · exact Int.le_of_lt (serial_lt_serial hless)
    · unfold Date.serial
      rw [hequal]

/-- **The week of the next day** is another one if that day is the first of its week. -/
theorem weekOfYear_succ (h : first ≤ n) : weekOfYear (n + 1) first start =
    if (weekdayOfSerial (n + 1) - start) % 7 + 1 = 1 then weekOfYear n first start + 1
      else weekOfYear n first start := by
  unfold weekOfYear weekdayOfSerial
  dsimp only
  rw [Int.tdiv_eq_ediv_of_nonneg (by omega), Int.tdiv_eq_ediv_of_nonneg (by omega)]
  split <;> omega

/-- The first of January is in the first week. -/
theorem weekOfYear_self (first start : Int) : weekOfYear first first start = 1 := by
  unfold weekOfYear weekdayOfSerial
  dsimp only
  rw [Int.tdiv_eq_ediv_of_nonneg (by omega)]
  omega

end Weeks

/-! ## 3. What the functions give -/

section Functions

variable {ctx : Context} {es : Expr} {rest : List Expr} {args : List Arg} {x k : Float}
  {n kind start : Int}

theorem weekday_eq (hserial : serialAt args 0 = .ok x) (hkind : numberAtOr args 1 1 = .ok k)
    (hthree : toWord (wholeOf k) ≠ 3) (hstart : weekStart? (toWord (wholeOf k)) = some start) :
    weekday args ctx =
      .ok (.number (Float.ofInt ((weekdayOfSerial (serialDay x) - start) % 7 + 1))) := by
  unfold weekday
  rw [hserial, hkind]
  show (if toWord (wholeOf k) = 3 then _ else _) = _
  rw [if_neg hthree, hstart]
  rfl

theorem weekNumber_eq (hserial : serialAt args 0 = .ok x) (hkind : numberAtOr args 1 1 = .ok k)
    (hiso : toWord (wholeOf k) ≠ 21) (hstart : weekStart? (toWord (wholeOf k)) = some start)
    (hx : isSerial x = true) : weekNumber args ctx =
      .ok (.number (Float.ofInt (weekOfYear (serialDay x)
        (Date.newYear (civilOfSerialDay (serialDay x)).1).serial start))) := by
  unfold weekNumber
  rw [hserial, hkind]
  show (if toWord (wholeOf k) = 21 then _ else _) = _
  rw [if_neg hiso, hstart]
  show (Outcome.orRefuse .num (civilOfSerial? x) >>= _) = _
  rw [civilOfSerial?_eq hx]
  rfl

/-- A function of a serial and a kind of week, where it depends on them alone. -/
theorem yields_ofWeek {name : String} {run : List Arg → Context → Outcome Value} {v : Value}
    (hfind : findBuiltin? name = some (scalarBuiltin name 1 (some 2) run))
    (hrest : WeeksFrom ctx rest kind) (hes : YieldsInteger ctx es n) (hlow : 0 ≤ n)
    (hhigh : n < serialLimit)
    (hrun : ∀ args ctx x k, serialAt args 0 = .ok x → numberAtOr args 1 1 = .ok k →
      isSerial x = true → serialDay x = n → IsInteger k kind → run args ctx = .ok v) :
    Yields ctx (.call name (es :: rest)) v := by
  obtain ⟨x, hx, hn⟩ := hes
  obtain ⟨vs, k, hvs, herrors, hlength, hread, hk⟩ := hrest.values
  obtain ⟨hserial, hday⟩ := hn.isSerial hlow hhigh
  have haccepts : (scalarBuiltin name 1 (some 2) run).accepts (es :: rest).length = true := by
    simp [Builtin.accepts, scalarBuiltin, hlength]
  refine Yields.call hfind rfl haccepts (.cons hx hvs) (List.forall_mem_cons.mpr ⟨rfl, herrors⟩)
    fun path => ?_
  have hat : serialAt ((Value.number x :: vs).map .value) 0 = .ok x := if_pos hserial
  show Outcome.settle (run ((Value.number x :: vs).map .value) { ctx with path }) = _
  rw [hrun _ _ x k hat (hread _) hserial hday hk]
  rfl

theorem yields_year (hes : YieldsInteger ctx es n) (hlow : 0 ≤ n) (hhigh : n < serialLimit) :
    Yields ctx (.call "YEAR" [es]) (.number (Float.ofInt (civilOfSerialDay n).1)) :=
  yields_civilPart Prod.fst rfl hes hlow hhigh

theorem yields_weekday (hkind : kind ∈ weekKinds) (hstart : weekStart? kind = some start)
    (hrest : WeeksFrom ctx rest kind) (hes : YieldsInteger ctx es n) (hlow : 0 ≤ n)
    (hhigh : n < serialLimit) : Yields ctx (.call "WEEKDAY" (es :: rest))
      (.number (Float.ofInt ((weekdayOfSerial n - start) % 7 + 1))) := by
  obtain ⟨hfrom, hto, hthree⟩ := weekKinds_bounds hkind
  refine yields_ofWeek rfl hrest hes hlow hhigh fun args ctx x k hserial hread _ hday hk => ?_
  have hword := hk.wholeOf.toWord_eq (by omega) (by omega)
  rw [weekday_eq hserial hread (hword ▸ hthree) (hword ▸ hstart), hday]

theorem yields_weekNumber (hkind : kind ∈ weekKinds) (hstart : weekStart? kind = some start)
    (hrest : WeeksFrom ctx rest kind) (hes : YieldsInteger ctx es n) (hlow : 0 ≤ n)
    (hhigh : n < serialLimit) : Yields ctx (.call "WEEKNUM" (es :: rest))
      (.number (Float.ofInt
        (weekOfYear n (Date.newYear (civilOfSerialDay n).1).serial start))) := by
  obtain ⟨hfrom, hto, -⟩ := weekKinds_bounds hkind
  refine yields_ofWeek rfl hrest hes hlow hhigh fun args ctx x k hserial hread hx hday hk => ?_
  have hword := hk.wholeOf.toWord_eq (by omega) (by omega)
  rw [weekNumber_eq hserial hread (by omega) (hword ▸ hstart) hx, hday]

end Functions

/-! ## 4. Weeks in step -/

/-- **Weeks and the days of the week are in step**, for each kind of week that is counted from the
    first of January. From one whole serial to the next

    * the day of the week goes on from 1 to 7 and then from 1 again, over the ends of years and the
      phantom day as well;
    * within a year, from serial 1 on, the week goes on by one on the first day of a week and on no
      other day.

    The first of January is in week 1. -/
theorem weeks_consistent (ctx : Context) (rest : List Expr) (kind : Int) (hkind : kind ∈ weekKinds)
    (hrest : WeeksFrom ctx rest kind) :
    (∀ es es' n, YieldsInteger ctx es n → YieldsInteger ctx es' (n + 1) → 0 ≤ n →
      n + 1 < serialLimit → ∃ day day' week week' year year' : Int,
        Yields ctx (.call "WEEKDAY" (es :: rest)) (.number (Float.ofInt day)) ∧
        Yields ctx (.call "WEEKDAY" (es' :: rest)) (.number (Float.ofInt day')) ∧
        Yields ctx (.call "WEEKNUM" (es :: rest)) (.number (Float.ofInt week)) ∧
        Yields ctx (.call "WEEKNUM" (es' :: rest)) (.number (Float.ofInt week')) ∧
        Yields ctx (.call "YEAR" [es]) (.number (Float.ofInt year)) ∧
        Yields ctx (.call "YEAR" [es']) (.number (Float.ofInt year')) ∧
        1 ≤ day ∧ day ≤ 7 ∧ day' = day % 7 + 1 ∧
        (1 ≤ n → year = year' → week' = if day' = 1 then week + 1 else week)) ∧
    (∀ es y date, 1900 ≤ y → y ≤ 9999 → Date.ofCivil? y 1 1 = some date →
      YieldsInteger ctx es date.serial →
      Yields ctx (.call "WEEKNUM" (es :: rest)) (.number (Float.ofInt 1))) := by
  obtain ⟨start, hstart⟩ := weekStart_of_mem hkind
  refine ⟨fun es es' n hes hes' hlow hhigh => ?_, fun es y date hlow hhigh hdate hes => ?_⟩
  · refine ⟨_, _, _, _, _, _, yields_weekday hkind hstart hrest hes hlow (by omega),
      yields_weekday hkind hstart hrest hes' (by omega) hhigh,
      yields_weekNumber hkind hstart hrest hes hlow (by omega),
      yields_weekNumber hkind hstart hrest hes' (by omega) hhigh,
      yields_year hes hlow (by omega), yields_year hes' (by omega) hhigh, ?_⟩
    refine ⟨by omega, by omega, by unfold weekdayOfSerial; omega, fun hpos hyear => ?_⟩
    rw [← hyear, weekOfYear_succ (newYear_serial_le hpos)]
  · obtain ⟨hyear, -, -⟩ := Date.civil_of_ofCivil? hdate
    obtain ⟨hfirst, hlast, -⟩ := exists_serial_iff.mp ⟨date, hyear ▸ ⟨hlow, hhigh⟩, rfl⟩
    have hnumber := date.number_bounds.mp (hyear ▸ ⟨hlow, hhigh⟩)
    have hnewYear : Date.newYear date.year = date := by
      rw [Date.ofCivil?_newYear] at hdate
      rw [hyear]
      exact Option.some.inj hdate
    have hyields := yields_weekNumber hkind hstart hrest hes (by omega)
      (by unfold serialLimit; omega)
    rw [civilOfSerialDay_serial hnumber.1] at hyields
    change Yields _ _ (.number (Float.ofInt
      (weekOfYear _ (Date.newYear date.year).serial start))) at hyields
    rwa [hnewYear, weekOfYear_self] at hyields

/-- The phantom day and the day after it, with weeks that begin on Thursdays. -/
theorem weeks_consistent_phantomDay : ∃ day day' week week' : Int,
    Yields emptyContext (.call "WEEKDAY" [.number (Float.ofInt 60), .number (Float.ofInt 14)])
      (.number (Float.ofInt day)) ∧
    Yields emptyContext (.call "WEEKDAY" [.number (Float.ofInt 61), .number (Float.ofInt 14)])
      (.number (Float.ofInt day')) ∧
    Yields emptyContext (.call "WEEKNUM" [.number (Float.ofInt 60), .number (Float.ofInt 14)])
      (.number (Float.ofInt week)) ∧
    Yields emptyContext (.call "WEEKNUM" [.number (Float.ofInt 61), .number (Float.ofInt 14)])
      (.number (Float.ofInt week')) ∧
    day' = day % 7 + 1 ∧ 14 ∈ weekKinds ∧
    Yields emptyContext (.call "WEEKNUM" [.number (Float.ofInt 1), .number (Float.ofInt 14)])
      (.number (Float.ofInt 1)) := by
  have hnumber {k : Int} (h : k.natAbs < 2 ^ 53) := yieldsInteger_number emptyContext h
  have hkind : (14 : Int) ∈ weekKinds := by decide
  obtain ⟨hsteps, hfirst⟩ := weeks_consistent emptyContext _ 14 hkind
    (.inr ⟨_, rfl, hnumber (by decide)⟩)
  obtain ⟨day, day', week, week', -, -, hday, hday', hweek, hweek', -, -, -, -, hnext, -⟩ :=
    hsteps _ _ 60 (hnumber (by decide)) (hnumber (by decide)) (by decide) (by decide)
  exact ⟨day, day', week, week', hday, hday', hweek, hweek', hnext, hkind,
    hfirst _ 1900 ⟨1⟩ (by decide) (by decide) (by decide) (hnumber (by decide))⟩

end Gridcalc
