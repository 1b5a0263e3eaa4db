import Gridcalc.Proofs.Evaluation.Determined
import Gridcalc.Proofs.Number.Shown
import Gridcalc.Proofs.Number.Sums

/-!
# Criteria and their negations

A criterion with an equals sign and the one with the signs for inequality split all values in two,
whatever follows the signs: a number, a truth value, a pattern, another text, or nothing.

* `Criterion.Opposite`: two criteria of one kind, for equality and for inequality;
  `Criterion.Opposite.admits`: each value satisfies one of the two;
* `Criterion.opposite_ofValue`: what is read behind the signs makes such a pair;
* `Builtin.countOf_split`: the cells of a rectangle are counted by the two together;
* `criteria_split`: **so the two calls that count them add up to the number of cells**.
-/

namespace Gridcalc

/-! ## 1. Opposite criteria -/

namespace Criterion

/-- The first criterion is for being equal to something, and the second one for being unequal. -/
inductive Opposite : Criterion → Criterion → Prop
  | number (x : Float) : Opposite (.number .equal x) (.number .notEqual x)
  | boolean (b : Bool) : Opposite (.boolean .equal b) (.boolean .notEqual b)
  | text (small : List Char) : Opposite (.text .equal small) (.text .notEqual small)
  | pattern (p : Text.Pattern) : Opposite (.pattern false p) (.pattern true p)
  | blank : Opposite (.blank false) (.blank true)

section Values

variable {c d : Criterion} {cs : List Char}

theorem bne_true_eq_not (b : Bool) : (b != true) = !(b != false) := by
  cases b <;> rfl

/-- **Each value satisfies one of two opposite criteria.** A value of another kind than the criteria
    are about is unequal. -/
theorem Opposite.admits (h : Opposite c d) (v : Value) : d.admits v = !c.admits v := by
  cases h with
  | number x => cases v <;> rfl
  | boolean b => cases v <;> rfl
  | text small => cases v <;> rfl
  | pattern p =>
    cases v with
    | text s => exact bne_true_eq_not _
    | _ => rfl
  | blank => exact bne_true_eq_not _

/-- The two signs in front of the same text make opposite criteria. -/
theorem opposite_ofOperand (cs : List Char) :
    Opposite (ofOperand .equal cs) (ofOperand .notEqual cs) := by
  unfold ofOperand
  cases cs.isEmpty with
  | true => exact .blank
  | false =>
    cases readNumber? (Text.trim cs) with
    | some x => exact .number x
    | none =>
      cases truthValue? cs with
      | some b => exact .boolean b
      | none =>
        cases Text.hasWildcards cs with
        | true => exact .pattern _
        | false => exact .text _

theorem opposite_ofChars (cs : List Char) :
    Opposite (ofChars ('=' :: cs)) (ofChars ('<' :: '>' :: cs)) :=
  opposite_ofOperand cs

theorem opposite_ofValue (r : String) :
    Opposite (ofValue (.text ("=" ++ r))) (ofValue (.text ("<>" ++ r))) := by
  show Opposite (ofChars ("=" ++ r).toList) (ofChars ("<>" ++ r).toList)
  rw [String.toList_append, String.toList_append]
  exact opposite_ofChars r.toList

/-- A text that does not begin with a sign of comparison is compared as a whole. -/
theorem takeComparison_bare (h : ∀ c ∈ cs.head?, c ≠ '=' ∧ c ≠ '<' ∧ c ≠ '>') :
    takeComparison cs = (.equal, cs) := by
  cases cs with
  | nil => rfl
  | cons c cs =>
    obtain ⟨hequal, hless, hgreater⟩ := h c rfl
    unfold takeComparison
    split <;> simp_all

theorem ofValue_bare {r : String} (h : ∀ c ∈ r.toList.head?, c ≠ '=' ∧ c ≠ '<' ∧ c ≠ '>') :
    ofValue (.text r) = ofValue (.text ("=" ++ r)) := by
  show ofChars r.toList = ofChars ("=" ++ r).toList
  rw [String.toList_append]
  show _ = ofOperand .equal r.toList
  unfold ofChars
  rw [takeComparison_bare h]

end Values

end Criterion

/-! ## 2. Counting by both -/

namespace Builtin

section Counts

variable {c d : Criterion} {vs : List Value} {view : RangeView} {ctx : Context}

/-- Two opposite criteria count every value once. -/
theorem countP_opposite (h : c.Opposite d) (vs : List Value) :
    vs.countP c.admits + vs.countP d.admits = vs.length := by
  rw [List.length_eq_countP_add_countP c.admits]
  refine congrArg (vs.countP c.admits + ·) (List.countP_congr fun v _ => ?_)
  rw [h.admits, Bool.not_eq_true']
  simp

theorem length_values (view : RangeView) : view.values.length = view.cellCount := by
  rw [RangeView.values, RangeView.cells, List.length_map, List.length_map, RangeRef.length_cells]
  rfl

/-- The number of cells of a range that satisfy a criterion. -/
def countOf (view : RangeView) (criterion : String) : Nat :=
  view.values.countP (Criterion.ofValue (.text criterion)).admits

theorem countOf_split (view : RangeView) (r : String) :
    countOf view ("=" ++ r) + countOf view ("<>" ++ r) = view.cellCount :=
  (countP_opposite (Criterion.opposite_ofValue r) view.values).trans (length_values view)

theorem countIf_eq (view : RangeView) (criterion : String) (ctx : Context) :
    countIf [.range view, .value (.text criterion)] ctx =
      .ok (.number (Float.ofNat (countOf view criterion))) := rfl

end Counts

end Builtin

/-! ## 3. Calls -/

section Calls

open Builtin

variable {ctx : Context} {ref : Reference} {view : RangeView} {e : Expr} {r comparison : String}

/-- A sheet has no more cells than doubles can count. -/
theorem RangeView.cellCount_lt (hrows : view.sheet.rowCount ≤ maxRows)
    (hcols : view.sheet.colCount ≤ maxColumns) (h : view.sheet.containsRange view.range = true) :
    view.cellCount < 2 ^ 53 := by
  simp only [Worksheet.containsRange, Worksheet.inBounds, Bool.and_eq_true,
    decide_eq_true_eq] at h
  have hcells := RangeRef.cellCount_le (Nat.lt_of_lt_of_le h.1 hrows) (Nat.lt_of_lt_of_le h.2 hcols)
  exact Nat.lt_of_le_of_lt hcells (by decide)

/-- A tree has a value that reads as a text, wherever it stands in a formula. -/
def HasText (ctx : Context) (e : Expr) (r : String) : Prop :=
  ∀ path, ∃ v, evaluate { ctx with path } e = .ok v ∧ v.toText = .ok r

/-- The cells of a reference counted by a sign of comparison with a text behind it. -/
def countCall (ref : Reference) (comparison : String) (e : Expr) : Expr :=
  .call "COUNTIF" [ref.toExpr, .binary .concat (.text comparison) e]

theorem hasText_text (ctx : Context) (r : String) : HasText ctx (.text r) r :=
  fun _ => ⟨.text r, rfl, rfl⟩

theorem evaluate_concat (h : HasText ctx e r) (comparison : String) (path : List Nat) :
    evaluate { ctx with path } (.binary .concat (.text comparison) e) =
      .ok (.text (comparison ++ r)) := by
  obtain ⟨v, hv, htext⟩ := h (1 :: path)
  have hright : evaluate (Context.branch { ctx with path } 1) e = .ok v := hv
  have hcombine : combine .concat (.text comparison) v = .ok (.text (comparison ++ r)) := by
    show (do
      let s ← v.toText
      return Value.text (comparison ++ s) : Except ErrorValue Value) = _
    rw [htext]
    rfl
  simp only [evaluate, hright]
  cases v with
  | error e => cases htext
  | _ => exact congrArg (fun o => Except.ok (valueOr o)) hcombine

theorem evaluate_countCall (hview : ctx.view ref.sheet ref.area = .ok view) (h : HasText ctx e r)
    (comparison : String) (path : List Nat) :
    evaluate { ctx with path } (countCall ref comparison e) =
      .ok (.number (Float.ofNat (countOf view (comparison ++ r)))) := by
  obtain ⟨v, hv⟩ := evaluate_toExpr (Context.branch { ctx with path } 0) ref
  have htext : evaluate (Context.branch { ctx with path } 1)
      (.binary .concat (.text comparison) e) = .ok (.text (comparison ++ r)) :=
    evaluate_concat h comparison (1 :: path)
  have hrange : argOf { ctx with path } .range ref.toExpr v = .range view := argOf_toExpr hview v
  have hfind : findBuiltin? "COUNTIF" =
      some ⟨"COUNTIF", 2, some 2, [.range, .scalar, .range], false, countIf⟩ := rfl
  simp only [countCall, evaluate, hfind]
  rw [if_pos (by rfl)]
  simp only [evaluateArgs, hv, htext]
  show (countIf [argOf { ctx with path } .range ref.toExpr v, .value (.text (comparison ++ r))]
    { ctx with path }).settle = _
  rw [hrange, countIf_eq]
  rfl

theorem calculate_add {a b : Nat} (h : a + b < 2 ^ 53) :
    calculate .add (Float.ofNat a) (Float.ofNat b) = .ok (.number (Float.ofNat (a + b))) := by
  unfold calculate
  dsimp only
  rw [ofNat_add h, isFinite_ofNat h]
  rfl

/-- A view lies in its sheet. -/
theorem containsRange_of_view {sheet : Option String} {range : RangeRef}
    (h : ctx.view sheet range = .ok view) : view.sheet.containsRange view.range = true := by
  unfold Context.view at h
  split at h
  · cases h
  · split at h
    · cases h
      assumption
    · cases h

theorem evaluateFormula_split (hview : ctx.view ref.sheet ref.area = .ok view)
    (hrows : view.sheet.rowCount ≤ maxRows) (hcols : view.sheet.colCount ≤ maxColumns)
    (h : HasText ctx e r) :
    evaluateFormula ctx (some (.binary .add (countCall ref "=" e) (countCall ref "<>" e))) =
      .ok (.number (Float.ofNat view.cellCount)) := by
  have hsplit := countOf_split view r
  have hsmall := RangeView.cellCount_lt hrows hcols (containsRange_of_view hview)
  have hequal : evaluate (ctx.branch 0) (countCall ref "=" e) = _ :=
    evaluate_countCall hview h "=" (0 :: ctx.path)
  have hunequal : evaluate (ctx.branch 1) (countCall ref "<>" e) = _ :=
    evaluate_countCall hview h "<>" (1 :: ctx.path)
  have hsum := calculate_add (a := countOf view ("=" ++ r)) (b := countOf view ("<>" ++ r))
    (by omega)
  simp only [evaluateFormula, evaluate, hequal, hunequal]
  rw [← hsplit]
  exact congrArg (fun o => Except.ok (shownResult (valueOr o))) hsum

end Calls

/-- **Criteria split every range in two.** Whatever follows the signs, each value satisfies either
    the criterion for equality or the one for inequality; without a sign of comparison a text is
    the criterion for equality. So the cells of any range that satisfy the one and those that
    satisfy the other add up to all its cells. -/
theorem criteria_split :
    (∀ (r : String) (v : Value), (Criterion.ofValue (.text ("=" ++ r))).admits v = true ↔
      ¬(Criterion.ofValue (.text ("<>" ++ r))).admits v = true) ∧
    (∀ r : String, (∀ c ∈ r.toList.head?, c ≠ '=' ∧ c ≠ '<' ∧ c ≠ '>') → ∀ v : Value,
      (Criterion.ofValue (.text r)).admits v = (Criterion.ofValue (.text ("=" ++ r))).admits v) ∧
    ∀ (ctx : Context) (ref : Reference) (view : RangeView) (e : Expr) (r : String),
      ctx.view ref.sheet ref.area = .ok view → view.sheet.rowCount ≤ maxRows →
      view.sheet.colCount ≤ maxColumns → HasText ctx e r →
      evaluateFormula ctx (some (.binary .add (countCall ref "=" e) (countCall ref "<>" e))) =
        .ok (.number (Float.ofNat view.cellCount)) := by
  refine ⟨fun r v => ?_, fun r h v => ?_, fun ctx ref view e r hview hrows hcols h => ?_⟩
  · rw [(Criterion.opposite_ofValue r).admits v, Bool.not_eq_true', Bool.not_eq_false]
  · rw [Criterion.ofValue_bare h]
  · exact evaluateFormula_split hview hrows hcols h

/-- A column with a number, a text, a blank cell and an error. -/
def mixedCells : Context :=
  let store := ((({} : CellStore).put 0 0 { value := .number 1 }).put 1 0
    { value := .text "Bert" }).put 3 0 { value := .error .divZero }
  { sheets := [{ Worksheet.create "Sheet1" 20 10 with store }], sheet := 0, row := 0, col := 5,
    ambient := ⟨default, fun _ => 0⟩ }

/-- The text fits the pattern, with an equals sign or without; together with the cells that do not
    there are four. -/
theorem criteria_split_mixed :
    (Criterion.ofValue (.text "b*")).admits (.text "Bert") =
      (Criterion.ofValue (.text "=b*")).admits (.text "Bert") ∧
    evaluateFormula mixedCells (some (.binary .add
      (countCall (.range none (.between 0 0 3 0)) "=" (.text "b*"))
      (countCall (.range none (.between 0 0 3 0)) "<>" (.text "b*")))) = .ok (.number 4) := by
  obtain ⟨-, hbare, hcount⟩ := criteria_split
  refine ⟨hbare "b*" (by simp) _, ?_⟩
  exact (hcount mixedCells (.range none (.between 0 0 3 0)) ⟨mixedCells.sheets[0], _⟩ _ "b*" rfl
    (by decide) (by decide) (hasText_text _ _)).trans rfl

end Gridcalc
