import Gridcalc.Builtin.Registry
import Gridcalc.Proofs.Sheet.Contents
import Mathlib.Data.List.Forall2

/-!
# Alike arguments

Arguments of two evaluations that show a function the same thing, although the sheets behind their
rectangles may differ elsewhere.

* `RangeView.Alike`, `Arg.Alike`: the same rectangle with the same values and summaries, and with
  the same hidden rows where these are looked at, or the same value;
* `scalarAt_congr`, `numbersOf_congr`, `gather_congr` and so on: everything the functions read their
  arguments with gives the same for alike arguments;
* `Outcome.Rel`: two outcomes that are refused alike or have related results, for the one reader
  whose result is a rectangle (`rangeAt_rel`).
-/

namespace Gridcalc

/-! ## 1. Alike rectangles -/

/-- The same rectangle, with the same values in it and a summary in the same cells; if it is `shown`
    which rows are hidden, these are the same too. -/
structure RangeView.Alike (shown : Prop) (v v' : RangeView) : Prop where
  range : v.range = v'.range
  value : ∀ row col, v.range.contains row col = true →
    v.sheet.valueAt row col = v'.sheet.valueAt row col
  summary : ∀ row col, v.range.contains row col = true →
    (v.sheet.formulaAt? row col).map Builtin.isSummaryFormula =
      (v'.sheet.formulaAt? row col).map Builtin.isSummaryFormula
  hidden : shown → ∀ row, v.sheet.isHidden row = v'.sheet.isHidden row

namespace RangeView.Alike

variable {shown : Prop} {v v' : RangeView}

theorem rowCount_eq (h : v.Alike shown v') : v.rowCount = v'.rowCount :=
  congrArg RangeRef.rowCount h.range

theorem colCount_eq (h : v.Alike shown v') : v.colCount = v'.colCount :=
  congrArg RangeRef.colCount h.range

/-- Places outside the rectangle have no value in either view. -/
theorem value_eq (h : v.Alike shown v') (row col : Nat) : v.value row col = v'.value row col := by
  unfold RangeView.value
  rw [← h.rowCount_eq, ← h.colCount_eq, ← h.range]
  split
  · rfl
  · rename_i hin
    refine h.value _ _ ?_
    have hr : v.rowCount = v.range.lastRow - v.range.firstRow + 1 := rfl
    have hc : v.colCount = v.range.lastCol - v.range.firstCol + 1 := rfl
    have hsides := v.range.first_le_last
    rw [RangeRef.contains_iff]
    omega

theorem values_eq (h : v.Alike shown v') : v.values = v'.values := by
  unfold RangeView.values RangeView.cells
  rw [← h.range, List.map_map, List.map_map]
  exact List.map_congr_left fun r hr => h.value _ _ (RangeRef.contains_of_mem_cells hr)

theorem rowValues_eq (h : v.Alike shown v') (row : Nat) : v.rowValues row = v'.rowValues row := by
  simp only [RangeView.rowValues, h.colCount_eq, h.value_eq]

theorem colValues_eq (h : v.Alike shown v') (col : Nat) : v.colValues col = v'.colValues col := by
  simp only [RangeView.colValues, h.rowCount_eq, h.value_eq]

theorem single?_eq (h : v.Alike shown v') : v.single? = v'.single? := by
  have hcount : v.cellCount = v'.cellCount := congrArg RangeRef.cellCount h.range
  simp only [RangeView.single?, hcount, h.value_eq]

theorem line?_eq (h : v.Alike shown v') : Builtin.line? v = Builtin.line? v' := by
  simp only [Builtin.line?, h.rowCount_eq, h.colCount_eq, h.rowValues_eq, h.colValues_eq]

/-- The same cells are left out, so the same values remain. -/
theorem remaining_eq (h : v.Alike shown v') (hs : shown) (rules : Builtin.SkipRules) :
    rules.remaining v = rules.remaining v' := by
  have hskips : ∀ r ∈ v.range.cells,
      rules.skips v.sheet r.row r.col = rules.skips v'.sheet r.row r.col := by
    intro r hr
    have hin := RangeRef.contains_of_mem_cells hr
    simp only [Builtin.SkipRules.skips, h.hidden hs, h.summary _ _ hin, h.value _ _ hin]
  unfold Builtin.SkipRules.remaining RangeView.cells
  rw [← h.range, List.filter_map, List.filter_map, List.map_map, List.map_map]
  have hkept : v.range.cells.filter ((fun p : CellRef × Value =>
        !rules.skips v.sheet p.1.row p.1.col) ∘ fun r => (r, v.sheet.valueAt r.row r.col)) =
      v.range.cells.filter ((fun p : CellRef × Value =>
        !rules.skips v'.sheet p.1.row p.1.col) ∘ fun r => (r, v'.sheet.valueAt r.row r.col)) := by
    refine List.filter_congr fun r hr => ?_
    simp only [Function.comp_apply, hskips r hr]
  rw [← hkept]
  refine List.map_congr_left fun r hr => ?_
  exact h.value _ _ (RangeRef.contains_of_mem_cells (List.mem_filter.mp hr).1)

end RangeView.Alike

/-! ## 2. Alike arguments -/

/-- The same value, or alike rectangles. -/
inductive Arg.Alike (shown : Prop) : Arg → Arg → Prop
  | value (v : Value) : Alike shown (.value v) (.value v)
  | range {v v' : RangeView} (h : v.Alike shown v') : Alike shown (.range v) (.range v')

/-- Alike arguments in every place. -/
abbrev ArgsAlike (shown : Prop) (args args' : List Arg) : Prop :=
  List.Forall₂ (Arg.Alike shown) args args'

namespace Arg.Alike

variable {shown : Prop} {a a' : Arg}

theorem scalar_eq (h : a.Alike shown a') : a.scalar = a'.scalar := by
  cases h with
  | value v => rfl
  | range h => simp only [Arg.scalar, h.single?_eq]

theorem values_eq (h : a.Alike shown a') : a.values = a'.values := by
  cases h with
  | value v => rfl
  | range h => exact h.values_eq

theorem isRange_eq (h : a.Alike shown a') : Builtin.isRange a = Builtin.isRange a' := by
  cases h <;> rfl

end Arg.Alike

/-- A figure of single arguments that is the same for alike ones gives the same list. -/
theorem ArgsAlike.map_eq {β : Type} {shown : Prop} {args args' : List Arg}
    (h : ArgsAlike shown args args') {f : Arg → β} (hf : ∀ a a', a.Alike shown a' → f a = f a') :
    args.map f = args'.map f := by
  induction h with
  | nil => rfl
  | cons ha _ ih => simp only [List.map_cons, hf _ _ ha, ih]

/-- Single values that are alike are the same. -/
theorem ArgsAlike.eq_of_values {shown : Prop} {args args' : List Arg}
    (h : ArgsAlike shown args args') (hvalues : ∀ a ∈ args, ∃ v, a = .value v) : args = args' := by
  induction h with
  | nil => rfl
  | cons ha _ ih =>
    obtain ⟨v, rfl⟩ := hvalues _ List.mem_cons_self
    rw [ih fun a hmem => hvalues a (List.mem_cons_of_mem _ hmem)]
    cases ha
    rfl

theorem ArgsAlike.findSome?_eq {β : Type} {shown : Prop} {args args' : List Arg}
    (h : ArgsAlike shown args args') {f : Arg → Option β}
    (hf : ∀ a a', a.Alike shown a' → f a = f a') :
    args.findSome? f = args'.findSome? f := by
  induction h with
  | nil => rfl
  | cons ha _ ih => simp only [List.findSome?_cons, hf _ _ ha, ih]

/-- Arguments in the same place are alike. -/
theorem ArgsAlike.getElem? {shown : Prop} {args args' : List Arg}
    (h : ArgsAlike shown args args') (i : Nat) :
    (args[i]? = none ∧ args'[i]? = none) ∨
      ∃ a a', args[i]? = some a ∧ args'[i]? = some a' ∧ a.Alike shown a' := by
  induction h generalizing i with
  | nil => simp
  | cons ha _ ih =>
    cases i with
    | zero => exact .inr ⟨_, _, rfl, rfl, ha⟩
    | succ i => simpa using ih i

/-! ## 3. Outcomes -/

/-- Refused for the same reason, or related results. -/
inductive Outcome.Rel {α β : Type} (r : α → β → Prop) : Outcome α → Outcome β → Prop
  | ok {a : α} {b : β} (h : r a b) : Rel r (.ok a) (.ok b)
  | error (i : Interrupt) : Rel r (.error i) (.error i)

/-- What is made of related results in the same way comes to the same. -/
theorem Outcome.Rel.bind_eq {α β γ : Type} {r : α → β → Prop} {x : Outcome α} {y : Outcome β}
    {f : α → Outcome γ} {g : β → Outcome γ} (h : Outcome.Rel r x y)
    (hfg : ∀ a b, r a b → f a = g b) : (x >>= f) = (y >>= g) := by
  cases h with
  | ok hr => exact hfg _ _ hr
  | error i => rfl

/-! ## 4. Reading arguments -/

namespace Builtin

variable {shown : Prop} {args args' : List Arg} {a a' : Arg}

theorem scalarAt_congr (h : ArgsAlike shown args args') (i : Nat) :
    scalarAt args i = scalarAt args' i := by
  unfold scalarAt
  rcases h.getElem? i with ⟨hn, hn'⟩ | ⟨a, a', ha, ha', hal⟩
  · rw [hn, hn']
  · rw [ha, ha', Option.map_some, Option.map_some, hal.scalar_eq]

theorem numberAt_congr (h : ArgsAlike shown args args') (i : Nat) :
    numberAt args i = numberAt args' i := by
  simp only [numberAt, scalarAt_congr h]

theorem textAt_congr (h : ArgsAlike shown args args') (i : Nat) :
    textAt args i = textAt args' i := by
  simp only [textAt, scalarAt_congr h]

theorem numberAtOr_congr (h : ArgsAlike shown args args') (i : Nat) (default : Float) :
    numberAtOr args i default = numberAtOr args' i default := by
  simp only [numberAtOr, scalarAt_congr h]

theorem booleanAtOr_congr (h : ArgsAlike shown args args') (i : Nat) (default : Bool) :
    booleanAtOr args i default = booleanAtOr args' i default := by
  simp only [booleanAtOr, scalarAt_congr h]

theorem soughtAt_congr (h : ArgsAlike shown args args') : soughtAt args = soughtAt args' := by
  simp only [soughtAt, scalarAt_congr h]

/-- The one reader that gives a rectangle gives alike ones. -/
theorem rangeAt_rel (h : ArgsAlike shown args args') (i : Nat) :
    Outcome.Rel
      (fun v v' => v.Alike shown v' ∧ args[i]? = some (.range v) ∧ args'[i]? = some (.range v'))
      (rangeAt args i) (rangeAt args' i) := by
  unfold rangeAt
  rcases h.getElem? i with ⟨hn, hn'⟩ | ⟨a, a', ha, ha', hal⟩
  · rw [hn, hn']
    exact .error _
  · rw [ha, ha']
    cases hal with
    | range hv => exact .ok ⟨hv, rfl, rfl⟩
    | value v =>
      cases v <;> exact .error _

theorem numbersOfArg_congr (h : a.Alike shown a') : numbersOfArg a = numbersOfArg a' := by
  cases h with
  | value v => rfl
  | range hv => simp only [numbersOfArg, hv.values_eq]

theorem numbersOf_congr (h : ArgsAlike shown args args') : numbersOf args = numbersOf args' := by
  induction h with
  | nil => rfl
  | cons ha _ ih => simp only [numbersOf, numbersOfArg_congr ha, ih]

theorem truthsOfArg_congr (h : a.Alike shown a') : truthsOfArg a = truthsOfArg a' := by
  cases h with
  | value v => rfl
  | range hv => simp only [truthsOfArg, hv.values_eq]

theorem truthsOf_congr (h : ArgsAlike shown args args') : truthsOf args = truthsOf args' := by
  have hall : truthsOfArgs args = truthsOfArgs args' := by
    induction h with
    | nil => rfl
    | cons ha _ ih => simp only [truthsOfArgs, truthsOfArg_congr ha, ih]
  simp only [truthsOf, hall]

theorem gatherArg_congr (rules : SkipRules) (hs : shown) (h : a.Alike shown a') :
    gatherArg rules a = gatherArg rules a' := by
  cases h with
  | value v => rfl
  | range hv => simp only [gatherArg, hv.remaining_eq hs]

theorem gather_congr (rules : SkipRules) (hs : shown) (h : ArgsAlike shown args args') :
    gather rules args = gather rules args' := by
  induction h with
  | nil => rfl
  | cons ha _ ih => simp only [gather, gatherArg_congr rules hs ha, ih]

theorem numericCount_congr (h : a.Alike shown a') : numericCount a = numericCount a' := by
  cases h with
  | value v => rfl
  | range hv => simp only [numericCount, hv.values_eq]

theorem errorAmong_congr (h : ArgsAlike shown args args') : errorAmong args = errorAmong args' := by
  unfold errorAmong
  rw [h.findSome?_eq fun a a' ha => by cases ha <;> rfl]

end Builtin

end Gridcalc
