import Gridcalc.Evaluation.Evaluate
import Gridcalc.Proofs.Number.Sums

/-!
# Bare ranges

A formula that is a range only shows the sum of the range, as a call of `SUM` does. The two go
through the cells in different ways: one adds up as it goes, zero for what is no number, and stops
at an error; the other one looks for errors first and adds the numbers only.

* `sumOfValues`: what both come to;
* `sumOfCells_eq`, `sum_view`: the two ways, over any values;
* `rangeSum_shown`: **a bare range is its sum**, whatever sheet and corners it names.
-/

namespace Gridcalc

open Builtin

/-- The sum of some values: the first error among them, or the sum of their numbers. -/
def sumOfValues (vs : List Value) : Value :=
  match firstError? vs with
  | some e => .error e
  | none => .number (total (vs.filterMap Value.number?))

/-- The sum of the cells that a range names, or the error of a range that names none. -/
def rangeSum (ctx : Context) (sheet : Option String) (r : RangeRef) : Value :=
  match ctx.view sheet r with
  | .ok view => sumOfValues view.values
  | .error e => .error e

section Values

variable {s : Float} {v : Value} {vs : List Value} {ctx : Context}

theorem firstError?_cons (v : Value) (vs : List Value) :
    firstError? (v :: vs) = v.error?.or (firstError? vs) := by
  cases h : v.error? <;> simp [firstError?, h]

theorem sumOfCells_cons (h : v.error? = none) :
    sumOfCells s (v :: vs) = sumOfCells (s + v.number?.getD 0) vs := by
  cases v <;> first | rfl | cases h

/-- Zero added for what is no number does not show in a sum that goes on from a proper number. -/
theorem foldl_numbers_cons (hs : Proper s) (v : Value) (vs : List Value) :
    ((v :: vs).filterMap Value.number?).foldl (· + ·) s =
      (vs.filterMap Value.number?).foldl (· + ·) (s + v.number?.getD 0) := by
  cases hv : v.number? with
  | none => rw [List.filterMap_cons_none hv, Option.getD_none, hs.add_zero]
  | some x => rw [List.filterMap_cons_some hv, List.foldl_cons, Option.getD_some]

/-- Adding up cell by cell, from a proper number on. -/
theorem sumOfCells_eq (hs : Proper s) (vs : List Value) :
    sumOfCells s vs =
      match firstError? vs with
      | some e => .error e
      | none => .number ((vs.filterMap Value.number?).foldl (· + ·) s) := by
  induction vs generalizing s with
  | nil => rfl
  | cons v vs ih =>
    rw [firstError?_cons]
    cases hv : v.error? with
    | some e =>
      obtain rfl : v = .error e := by
        cases v <;> cases hv
        rfl
      rfl
    | none => rw [sumOfCells_cons hv, ih (hs.add _), foldl_numbers_cons hs, Option.none_or]

theorem sumOfCells_zero (vs : List Value) : sumOfCells 0 vs = sumOfValues vs :=
  sumOfCells_eq proper_zero vs

/-- The numbers of one rectangle. -/
theorem numbersOf_range (view : RangeView) :
    numbersOf [.range view] = numbersOfCells view.values := by
  show (do
    let xs ← numbersOfCells view.values
    return xs ++ [] : Outcome (List Float)) = _
  cases numbersOfCells view.values with
  | error e => rfl
  | ok xs => exact congrArg Except.ok (List.append_nil xs)

/-- The numbers of a rectangle, added up by a function. -/
theorem sum_view (view : RangeView) (ctx : Context) :
    (sum [.range view] ctx).settle = .ok (sumOfValues view.values) := by
  unfold sumOfValues sum
  rw [numbersOf_range, numbersOfCells]
  cases firstError? view.values <;> rfl

end Values

/-- A call of `SUM` hands the range over unread. -/
theorem evaluate_sum (ctx : Context) (sheet : Option String) (r : RangeRef) :
    evaluate ctx (.call "SUM" [.range sheet r]) = (sum [rangeArg ctx sheet r] ctx).settle := by
  have hfind : findBuiltin? "SUM" = some (flatBuiltin "SUM" sum) := rfl
  simp only [evaluate, evaluateArgs, hfind]
  rfl

/-- A sum is a number or an error, and is shown as it is. -/
theorem shownResult_sumOfValues (vs : List Value) :
    shownResult (sumOfValues vs) = sumOfValues vs := by
  unfold sumOfValues
  cases firstError? vs <;> rfl

/-- **A formula that is just a range shows what `SUM` of the range shows**: the sum of its numbers,
    the first error in it, or the error of a range that is not there. -/
theorem rangeSum_shown (ctx : Context) (sheet : Option String) (r : RangeRef) :
    evaluateFormula ctx (some (.range sheet r)) = .ok (rangeSum ctx sheet r) ∧
      evaluateFormula ctx (some (.call "SUM" [.range sheet r])) = .ok (rangeSum ctx sheet r) := by
  have hcall : evaluateFormula ctx (some (.call "SUM" [.range sheet r])) =
      (sum [rangeArg ctx sheet r] ctx).settle.map shownResult :=
    congrArg (Except.map shownResult) (evaluate_sum ctx sheet r)
  rw [hcall]
  unfold evaluateFormula rangeSum rangeArg
  dsimp only
  cases ctx.view sheet r with
  | error e => exact ⟨rfl, rfl⟩
  | ok view =>
    dsimp only
    rw [sumOfCells_zero, sum_view, shownResult_sumOfValues]
    exact ⟨rfl, congrArg Except.ok (shownResult_sumOfValues _)⟩

end Gridcalc
