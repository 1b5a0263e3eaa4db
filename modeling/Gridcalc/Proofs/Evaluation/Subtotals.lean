import Gridcalc.Proofs.Evaluation.Determined
import Gridcalc.Proofs.Evaluation.RangeSum
import Gridcalc.Proofs.Formula.Calls

/-!
# Subtotals and the functions they stand for

`SUBTOTAL` gathers the values of a range once and then works out the figure that a code asks for.
The functions of these figures go through the range by themselves. Where nothing is left out, the
two come to the same, but for the counts of a range with an error: the counts take an error for any
other cell, while gathering stops at it.

* `CallsSummary`, `RangeView.WithoutSummaries`: the formulas whose cells are left out, and the
  ranges without them;
* `StandsFor`: the codes with the functions they stand for;
* `subtotal_eq`: what `SUBTOTAL` comes to where nothing is left out;
* `subtotal_agrees_iff`: **when it comes to what the function comes to**.
-/

namespace Gridcalc

open Builtin

/-! ## 1. Ranges without summaries -/

/-- The formula calls `SUBTOTAL` or `AGGREGATE`: its tree does, or, where the text is no formula of
    the language, one of the names stands in front of a parenthesis. -/
def CallsSummary (formula : String) : Prop :=
  match parseFormula formula with
  | ⟨some e, []⟩ => ∃ name ∈ e.functionNames, isSummaryName name = true
  | _ => isSummaryFormula formula = true

/-- No cell of the rectangle has a formula that calls `SUBTOTAL` or `AGGREGATE`. -/
def RangeView.WithoutSummaries (view : RangeView) : Prop :=
  ∀ row col, view.range.contains row col = true →
    ∀ formula ∈ view.sheet.formulaAt? row col, ¬CallsSummary formula

/-- No row of the rectangle is hidden. -/
def RangeView.Shown (view : RangeView) : Prop :=
  ∀ row ∈ view.range.rows, view.sheet.isHidden row = false

theorem isSummaryFormula_eq_false {formula : String} (h : ¬CallsSummary formula) :
    isSummaryFormula formula = false := by
  rw [Bool.eq_false_iff]
  intro htaken
  unfold CallsSummary at h
  split at h
  · rename_i e hread
    rcases calls_of_isSummaryFormula hread htaken with hcall | hcall
    · exact h ⟨_, hcall, rfl⟩
    · exact h ⟨_, hcall, rfl⟩
  · exact h htaken

section Values

variable {view : RangeView} {ctx : Context} {ref : Reference} {hidden : Bool} {code : Nat}
  {name : String}

/-- Where no cell has a summary, and no row is left out as hidden, all values are looked at. -/
theorem remaining_eq_values (h : view.WithoutSummaries) (hshown : hidden = true → view.Shown) :
    SkipRules.remaining ⟨true, hidden, false⟩ view = view.values := by
  unfold SkipRules.remaining RangeView.values
  rw [List.filter_eq_self.mpr]
  intro cell hcell
  obtain ⟨place, hplace, rfl⟩ := List.mem_map.mp hcell
  have hin := RangeRef.contains_of_mem_cells hplace
  have hrow : (hidden && view.sheet.isHidden place.row) = false := by
    cases hidden with
    | false => rfl
    | true =>
      obtain ⟨hfirst, hlast, -⟩ := RangeRef.contains_iff.mp hin
      exact hshown rfl _ (RangeRef.mem_rows.mpr ⟨hfirst, hlast⟩)
  have hformula : ((view.sheet.formulaAt? place.row place.col).map isSummaryFormula).getD false =
      false := by
    cases hf : view.sheet.formulaAt? place.row place.col with
    | none => rfl
    | some formula => exact isSummaryFormula_eq_false (h _ _ hin formula hf)
  simp only [SkipRules.skips, hrow, hformula]
  rfl

/-! ## 2. One range as the argument -/

theorem gather_range (rules : SkipRules) (view : RangeView) :
    gather rules [.range view] = (do
      let xs ← numbersOfCells (rules.remaining view)
      return ⟨xs, (rules.remaining view).countP fun v => !v.isEmpty⟩) := by
  show (do
    let a ← (do
      return ⟨← numbersOfCells (rules.remaining view), _⟩ : Outcome Gathered)
    return ⟨a.numbers ++ [], a.nonEmpty + 0⟩ : Outcome Gathered) = _
  cases numbersOfCells (rules.remaining view) with
  | error e => rfl
  | ok xs => exact congrArg (fun ys => Except.ok (Gathered.mk ys _)) (List.append_nil xs)

/-- **What `SUBTOTAL` comes to** where nothing is left out: the figure of all numbers, unless there
    is an error among the values. -/
theorem subtotal_eq (h : view.WithoutSummaries) (hshown : hidden = true → view.Shown) {x : Float}
    (hx : toWord (wholeOf x) = if hidden then (code : Int) + 100 else code)
    (hcode : 1 ≤ code ∧ code ≤ 11) (ctx : Context) :
    subtotal [.value (.number x), .range view] ctx = (do
      let xs ← numbersOfCells view.values
      summarise code ⟨xs, view.values.countP fun v => !v.isEmpty⟩ none) := by
  have hgather : gather ⟨true, hidden, false⟩ [.range view] = (do
      let xs ← numbersOfCells view.values
      return ⟨xs, view.values.countP fun v => !v.isEmpty⟩) := by
    rw [gather_range, remaining_eq_values h hshown]
  have hsummary : subtotal [.value (.number x), .range view] ctx =
      (gather ⟨true, hidden, false⟩ [.range view] >>= fun g => summarise code g none) := by
    have hnumber : numberAt [.value (.number x), .range view] 0 = .ok x := rfl
    unfold subtotal
    simp only [hnumber, bind, Except.bind, pure, Except.pure, hx]
    cases hidden with
    | false =>
      rw [if_pos (by simp; omega)]
      rfl
    | true =>
      rw [if_neg (by simp; omega), if_pos (by simp; omega)]
      simp only [if_true, add_sub_cancel_right]
      rfl
  rw [hsummary, hgather]
  cases numbersOfCells view.values <;> rfl

/-! ## 3. The functions that codes stand for -/

/-- The codes of `SUBTOTAL` with the functions they stand for. -/
inductive StandsFor : Nat → String → Prop
  | average : StandsFor 1 "AVERAGE"
  | count : StandsFor 2 "COUNT"
  | countAll : StandsFor 3 "COUNTA"
  | maximum : StandsFor 4 "MAX"
  | minimum : StandsFor 5 "MIN"
  | product : StandsFor 6 "PRODUCT"
  | sum : StandsFor 9 "SUM"

/-- Whether a code is one of a count. -/
def isCount (code : Nat) : Bool := code == 2 || code == 3

theorem StandsFor.bounds (h : StandsFor code name) : 1 ≤ code ∧ code ≤ 11 := by
  cases h <;> decide

/-- A function of any values takes a reference as a rectangle. -/
theorem evaluate_flat (run : List Arg → Context → Outcome Value)
    (hfind : findBuiltin? name = some (flatBuiltin name run))
    (hview : ctx.view ref.sheet ref.area = .ok view) :
    evaluate ctx (.call name [ref.toExpr]) = (run [.range view] ctx).settle := by
  obtain ⟨v, hv⟩ := evaluate_toExpr (ctx.branch 0) ref
  have harg : argOf ctx ((flatBuiltin name run).kindAt 0) ref.toExpr v = .range view := by
    rw [← argOf_toExpr hview v]
    cases ref <;> rfl
  simp only [evaluate, hfind, evaluateArgs, hv]
  rw [if_pos (by rfl)]
  show (run [argOf ctx ((flatBuiltin name run).kindAt 0) ref.toExpr v] ctx).settle = _
  rw [harg]

theorem evaluate_subtotal (hview : ctx.view ref.sheet ref.area = .ok view) (x : Float) :
    evaluate ctx (.call "SUBTOTAL" [.number x, ref.toExpr]) =
      (subtotal [.value (.number x), .range view] ctx).settle := by
  obtain ⟨v, hv⟩ := evaluate_toExpr (ctx.branch 1) ref
  have hfind : findBuiltin? "SUBTOTAL" =
      some ⟨"SUBTOTAL", 2, none, [.scalar, .range], false, subtotal⟩ := rfl
  simp only [evaluate, hfind, evaluateArgs, hv]
  rw [if_pos (by rfl)]
  show (subtotal [.value (.number x), argOf ctx .range ref.toExpr v] ctx).settle = _
  rw [argOf_toExpr hview]

/-- A figure other than a count is worked out from the numbers of the range. -/
theorem evaluate_figure (h : StandsFor code name) (hcount : isCount code = false)
    (hview : ctx.view ref.sheet ref.area = .ok view) (n : Nat) :
    evaluate ctx (.call name [ref.toExpr]) = (do
      let xs ← numbersOfCells view.values
      summarise code ⟨xs, n⟩ none : Outcome Value).settle := by
  cases h with
  | count => cases hcount
  | countAll => cases hcount
  | average =>
    rw [evaluate_flat average rfl hview, average, numbersOf_range]
    cases numbersOfCells view.values with
    | error e => rfl
    | ok xs =>
      show (Outcome.orRefuse .divZero (average? xs) >>= numberResult).settle =
        Outcome.settle ((Outcome.orRefuse .divZero (average? xs)).map Value.number)
      cases average? xs <;> rfl
  | maximum =>
    rw [evaluate_flat maximum rfl hview, maximum, numbersOf_range]
    rfl
  | minimum =>
    rw [evaluate_flat minimum rfl hview, minimum, numbersOf_range]
    rfl
  | product =>
    rw [evaluate_flat productOfAll rfl hview, productOfAll, numbersOf_range]
    rfl
  | sum =>
    rw [evaluate_flat sum rfl hview, sum, numbersOf_range]
    rfl

theorem evaluate_count (hview : ctx.view ref.sheet ref.area = .ok view) :
    evaluate ctx (.call "COUNT" [ref.toExpr]) =
      .ok (.number (Float.ofNat (view.values.countP Value.isNumeric))) :=
  evaluate_flat count rfl hview

theorem evaluate_countAll (hview : ctx.view ref.sheet ref.area = .ok view) :
    evaluate ctx (.call "COUNTA" [ref.toExpr]) =
      .ok (.number (Float.ofNat (view.values.countP fun v => !v.isEmpty))) :=
  evaluate_flat countAll rfl hview

/-- There are as many numbers as there are numeric values. -/
theorem length_numbers (vs : List Value) :
    (vs.filterMap Value.number?).length = vs.countP Value.isNumeric := by
  rw [List.length_filterMap_eq_countP]
  exact List.countP_congr fun v _ => by rw [Value.isSome_number?]

theorem firstError?_eq_none_iff {vs : List Value} :
    firstError? vs = none ↔ ∀ v ∈ vs, v.isError = false := by
  rw [firstError?, List.findSome?_eq_none_iff]
  exact forall₂_congr fun v _ => by cases v <;> simp [Value.error?, Value.isError]

/-- A count takes no error for one. -/
theorem exists_evaluate_of_isCount (h : StandsFor code name) (hcount : isCount code = true)
    (hview : ctx.view ref.sheet ref.area = .ok view) :
    ∃ n, evaluate ctx (.call name [ref.toExpr]) = .ok (.number (Float.ofNat n)) := by
  cases h with
  | count => exact ⟨_, evaluate_count hview⟩
  | countAll => exact ⟨_, evaluate_countAll hview⟩
  | _ => cases hcount

/-- The counts of a range without an error. -/
theorem evaluate_counted (h : StandsFor code name) (hcount : isCount code = true)
    (hview : ctx.view ref.sheet ref.area = .ok view) :
    evaluate ctx (.call name [ref.toExpr]) =
      (summarise code ⟨view.values.filterMap Value.number?,
        view.values.countP fun v => !v.isEmpty⟩ none).settle := by
  cases h with
  | count =>
    rw [evaluate_count hview, ← length_numbers]
    rfl
  | countAll => exact evaluate_countAll hview
  | _ => cases hcount

/-- Without an error, a code comes to what its function does. -/
theorem evaluate_standsFor (h : StandsFor code name)
    (hview : ctx.view ref.sheet ref.area = .ok view) (herror : firstError? view.values = none) :
    evaluate ctx (.call name [ref.toExpr]) =
      (summarise code ⟨view.values.filterMap Value.number?,
        view.values.countP fun v => !v.isEmpty⟩ none).settle := by
  cases hcount : isCount code with
  | true => exact evaluate_counted h hcount hview
  | false =>
    rw [evaluate_figure h hcount hview, numbersOfCells, herror]
    rfl

theorem exists_settle_summarise (h : StandsFor code name) (g : Gathered) :
    ∃ v, (summarise code g none).settle = .ok v := by
  cases h with
  | average =>
    show ∃ v, Outcome.settle ((Outcome.orRefuse .divZero (average? g.numbers)).map
      Value.number) = .ok v
    cases average? g.numbers <;> exact ⟨_, rfl⟩
  | _ => exact ⟨_, rfl⟩

end Values

/-! ## 4. When the two agree -/

/-- The call of `SUBTOTAL` with a code and a reference. -/
def subtotalCall (code : Nat) (ref : Reference) : Expr :=
  .call "SUBTOTAL" [.number (Float.ofNat code), ref.toExpr]

/-- What the call comes to where nothing is left out. -/
theorem evaluate_subtotalCall {ctx : Context} {ref : Reference} {view : RangeView} {code : Nat}
    {hidden : Bool} (hview : ctx.view ref.sheet ref.area = .ok view)
    (hnested : view.WithoutSummaries) (hshown : hidden = true → view.Shown)
    (hcode : 1 ≤ code ∧ code ≤ 11) :
    evaluate ctx (subtotalCall (if hidden then code + 100 else code) ref) = (do
      let xs ← numbersOfCells view.values
      summarise code ⟨xs, view.values.countP fun v => !v.isEmpty⟩ none : Outcome Value).settle := by
  let n := if hidden then code + 100 else code
  have hn : n < 2 ^ 53 := by
    simp only [n]
    split <;> omega
  have hx : toWord (wholeOf (Float.ofNat n)) = if hidden then (code : Int) + 100 else code := by
    rw [wholeOf_ofNat hn, toWord_ofNat hn]
    cases hidden <;> rfl
  show evaluate ctx (subtotalCall n ref) = _
  rw [subtotalCall, evaluate_subtotal hview, subtotal_eq hnested hshown hx hcode]

/-- **A subtotal is what the function of its code comes to, but for a count with an error.** It is
    about a range inside its sheet without a summary in it, with no row hidden for the codes from
    101 on. With an error in the range, any subtotal is that error, while the counts go on. -/
theorem subtotal_agrees_iff (ctx : Context) (ref : Reference) (view : RangeView)
    (hview : ctx.view ref.sheet ref.area = .ok view) (hnested : view.WithoutSummaries) (code : Nat)
    (name : String) (h : StandsFor code name) (hidden : Bool)
    (hshown : hidden = true → view.Shown) :
    ∃ v, evaluate ctx (subtotalCall (if hidden then code + 100 else code) ref) = .ok v ∧
      (evaluate ctx (.call name [ref.toExpr]) = .ok v ↔
        isCount code = false ∨ ∀ w ∈ view.values, w.isError = false) ∧
      ∀ e, firstError? view.values = some e → v = .error e := by
  have hsubtotal := evaluate_subtotalCall hview hnested hshown h.bounds
  cases herror : firstError? view.values with
  | none =>
    have hclean := firstError?_eq_none_iff.mp herror
    obtain ⟨v, hv⟩ := exists_settle_summarise h
      ⟨view.values.filterMap Value.number?, view.values.countP fun v => !v.isEmpty⟩
    rw [numbersOfCells, herror] at hsubtotal
    refine ⟨v, hsubtotal.trans hv, ?_, fun e he => absurd he.symm (Option.some_ne_none e)⟩
    rw [evaluate_standsFor h hview herror, hv]
    exact iff_of_true rfl (.inr hclean)
  | some e =>
    have hfaulty : ¬∀ w ∈ view.values, w.isError = false := by
      rw [← firstError?_eq_none_iff, herror]
      exact Option.some_ne_none e
    rw [numbersOfCells, herror] at hsubtotal
    refine ⟨.error e, hsubtotal, ?_, fun _ he => congrArg Value.error (Option.some.inj he)⟩
    cases hcount : isCount code with
    | false =>
      rw [evaluate_figure h hcount hview 0, numbersOfCells, herror]
      exact iff_of_true rfl (.inl rfl)
    | true =>
      obtain ⟨k, hk⟩ := exists_evaluate_of_isCount h hcount hview
      have hother : Value.number (Float.ofNat k) ≠ .error e := fun heq => Value.noConfusion heq
      rw [hk]
      exact iff_of_false (mt Except.ok.inj hother) (not_or.mpr ⟨by decide, hfaulty⟩)

/-- One number, a sum and an error below each other. -/
def withSum : Context :=
  let store := ((({} : CellStore).put 0 0 { value := .number 1 }).put 1 0
    { value := .number 1, formula := some "=SUM(A1)" }).put 3 0 { value := .error .divZero }
  { sheets := [{ Worksheet.create "Sheet1" 20 10 with store }], sheet := 0, row := 0, col := 5,
    ambient := ⟨default, fun _ => 0⟩ }

theorem not_callsSummary_sum : ¬CallsSummary "=SUM(A1)" := by
  have hread : parseFormula "=SUM(A1)" =
      ⟨some (.call "SUM" [.cell none (.ofIndices 0 0)]), []⟩ := by
    with_unfolding_all rfl
  unfold CallsSummary
  rw [hread]
  rintro ⟨name, hname, hsummary⟩
  obtain rfl : name = "SUM" := List.mem_singleton.mp hname
  exact absurd hsummary (by decide)

/-- Counting, a subtotal is the error while `COUNT` finds two numbers; adding up, the two agree. -/
theorem subtotal_of_withSum :
    evaluate withSum (subtotalCall 102 (.range none (.between 0 0 3 0))) =
        .ok (.error .divZero) ∧
      evaluate withSum (.call "COUNT" [.range none (.between 0 0 3 0)]) =
        .ok (.number (Float.ofNat 2)) ∧
      evaluate withSum (subtotalCall 9 (.range none (.between 0 0 3 0))) =
        evaluate withSum (.call "SUM" [.range none (.between 0 0 3 0)]) := by
  let ref : Reference := .range none (.between 0 0 3 0)
  let view : RangeView := ⟨withSum.sheets[0], .between 0 0 3 0⟩
  have hview : withSum.view ref.sheet ref.area = .ok view := rfl
  have hnested : view.WithoutSummaries := by
    intro row col hin formula hformula
    obtain ⟨-, hrow, -, hcol⟩ := RangeRef.contains_iff.mp hin
    have hcells : ∀ row < 4, ∀ col < 1, ∀ formula ∈ view.sheet.formulaAt? row col,
        formula = "=SUM(A1)" := by decide
    rw [hcells row (Nat.lt_succ_of_le hrow) col (Nat.lt_succ_of_le hcol) formula hformula]
    exact not_callsSummary_sum
  have hshown : view.Shown := fun row hrow => by rfl
  obtain ⟨v, hv, -, herror⟩ :=
    subtotal_agrees_iff withSum ref view hview hnested 2 "COUNT" .count true fun _ => hshown
  obtain ⟨w, hw, hsum, -⟩ :=
    subtotal_agrees_iff withSum ref view hview hnested 9 "SUM" .sum false nofun
  have hfirst : firstError? view.values = some .divZero := by decide
  have hcount : view.values.countP Value.isNumeric = 2 := by decide
  obtain rfl := herror .divZero hfirst
  exact ⟨hv, hcount ▸ evaluate_count hview, hw.trans (hsum.mpr (.inl rfl)).symm⟩

end Gridcalc
