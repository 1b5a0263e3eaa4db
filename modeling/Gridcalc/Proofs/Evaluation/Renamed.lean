import Gridcalc.Proofs.Evaluation.Footprint
import Gridcalc.Proofs.Formula.Renaming

/-!
# Formulas over sheets with other names

A formula comes to the same where sheets have other names, if its references name them so.

* `Worksheet.Twins`: two sheets that show the same, whatever they are called and however their
  formulas are written; `SheetTwins` says so of lists of sheets;
* `KeepsMeaning`: the references of a tree mean the same sheets under their other names;
* `precedentsOf_mapSheets`: then they read the same cells;
* `evaluate_mapSheets`, `evaluateFormula_mapSheets`: **and the tree comes to the same**, if it is not
  evaluated anew each time.
-/

namespace Gridcalc

/-! ## 1. Twins -/

/-- Two sheets that show the same: with the same size, hidden rows and values, and with summaries in
    the same cells. -/
structure Worksheet.Twins (ws ws' : Worksheet) : Prop where
  rowCount : ws.rowCount = ws'.rowCount
  colCount : ws.colCount = ws'.colCount
  hidden : ∀ row, ws.isHidden row = ws'.isHidden row
  value : ∀ row col, ws.valueAt row col = ws'.valueAt row col
  summary : ∀ row col, (ws.formulaAt? row col).map Builtin.isSummaryFormula =
    (ws'.formulaAt? row col).map Builtin.isSummaryFormula

theorem Worksheet.Twins.inBounds_eq {ws ws' : Worksheet} (h : ws.Twins ws') (row col : Nat) :
    ws.inBounds row col = ws'.inBounds row col := by
  rw [inBounds, h.rowCount, h.colCount, inBounds]

/-- Twins in every place. -/
def SheetTwins (sheets sheets' : List Worksheet) : Prop :=
  ∀ i : Nat, Option.Rel Worksheet.Twins (sheets[i]?) (sheets'[i]?)

/-- The references of a tree on sheet `home` mean the same sheets under other names. -/
def KeepsMeaning (f : Option String → Option String) (sheets sheets' : List Worksheet) (home : Nat)
    (e : Expr) : Prop :=
  ∀ r ∈ e.references,
    sheetOfReference? sheets' home (f r.sheet) = sheetOfReference? sheets home r.sheet

section Reading

variable {f : Option String → Option String} {sheets sheets' : List Worksheet} {home : Nat}
  {e l r : Expr} {op : Operator} {name : String} {args : List Expr}

theorem KeepsMeaning.left (h : KeepsMeaning f sheets sheets' home (.binary op l r)) :
    KeepsMeaning f sheets sheets' home l :=
  fun ref href => h ref (List.mem_append_left _ href)

theorem KeepsMeaning.right (h : KeepsMeaning f sheets sheets' home (.binary op l r)) :
    KeepsMeaning f sheets sheets' home r :=
  fun ref href => h ref (List.mem_append_right _ href)

theorem KeepsMeaning.arg (h : KeepsMeaning f sheets sheets' home (.call name args))
    (he : e ∈ args) : KeepsMeaning f sheets sheets' home e := by
  intro r hr
  refine h r ?_
  rw [Expr.references_call]
  exact List.mem_flatMap_of_mem he hr

/-- **A tree with other names of sheets reads the same cells.** -/
theorem precedentsOf_mapSheets (h : SheetTwins sheets sheets')
    (hmeans : KeepsMeaning f sheets sheets' home e) :
    precedentsOf sheets' home (e.mapSheets f) = precedentsOf sheets home e := by
  unfold precedentsOf
  rw [Expr.references_mapSheets, List.flatMap_map]
  refine List.flatMap_congr fun r hr => ?_
  unfold Reference.precedents
  rw [Reference.sheet_mapSheet, Reference.area_mapSheet, hmeans r hr]
  cases sheetOfReference? sheets home r.sheet with
  | none => rfl
  | some i =>
    have htwins := h i
    dsimp only
    generalize sheets[i]? = x at htwins ⊢
    generalize sheets'[i]? = x' at htwins ⊢
    cases htwins with
    | none => rfl
    | some htwins => simp only [htwins.rowCount, htwins.colCount]

end Reading

/-- One position, in sheets that are twins. -/
structure Context.Twins (ctx ctx' : Context) : Prop where
  sheet : ctx.sheet = ctx'.sheet
  row : ctx.row = ctx'.row
  col : ctx.col = ctx'.col
  sheets : SheetTwins ctx.sheets ctx'.sheets

/-- The same rectangle of twins. -/
structure RangeView.Twins (v v' : RangeView) : Prop where
  range : v.range = v'.range
  sheet : v.sheet.Twins v'.sheet

/-- The same value, or the same rectangle of twins. -/
inductive Arg.Twins : Arg → Arg → Prop
  | value (v : Value) : Twins (.value v) (.value v)
  | range {v v' : RangeView} (h : v.Twins v') : Twins (.range v) (.range v')

theorem RangeView.Twins.alike {v v' : RangeView} (h : v.Twins v') : v.Alike True v' :=
  ⟨h.range, fun row col _ => h.sheet.value row col, fun row col _ => h.sheet.summary row col,
    fun _ => h.sheet.hidden⟩

theorem Arg.Twins.alike {a a' : Arg} (h : a.Twins a') : a.Alike True a' := by
  cases h with
  | value v => exact .value v
  | range h => exact .range h.alike

/-! ## 2. References -/

section References

variable {ctx ctx' : Context} {f : Option String → Option String} {e : Expr} {r : Reference}

theorem Context.Twins.branch (h : ctx.Twins ctx') (i : Nat) :
    (ctx.branch i).Twins (ctx'.branch i) :=
  ⟨h.sheet, h.row, h.col, h.sheets⟩

variable (h : ctx.Twins ctx') (hmeans : KeepsMeaning f ctx.sheets ctx'.sheets ctx.sheet e)
  (hr : r ∈ e.references)

include h hmeans hr

theorem Context.Twins.sheetOf? :
    Option.Rel Worksheet.Twins (ctx.sheetOf? r.sheet) (ctx'.sheetOf? (f r.sheet)) := by
  unfold Context.sheetOf?
  rw [← h.sheet, hmeans r hr]
  cases sheetOfReference? ctx.sheets ctx.sheet r.sheet with
  | none => exact .none
  | some i => exact h.sheets i

/-- A reference has twin views in both places, or the same error. -/
theorem Context.Twins.view :
    (∃ x, ctx.view r.sheet r.area = .error x ∧ ctx'.view (f r.sheet) r.area = .error x) ∨
      ∃ v v', ctx.view r.sheet r.area = .ok v ∧ ctx'.view (f r.sheet) r.area = .ok v' ∧
        v.Twins v' := by
  have hsheet := h.sheetOf? hmeans hr
  unfold Context.view
  generalize ctx.sheetOf? r.sheet = x at hsheet ⊢
  generalize ctx'.sheetOf? (f r.sheet) = x' at hsheet ⊢
  cases hsheet with
  | none => exact .inl ⟨_, rfl, rfl⟩
  | @some ws ws' htwins =>
    have hcontains : ws.containsRange r.area = ws'.containsRange r.area :=
      htwins.inBounds_eq _ _
    dsimp only
    rw [hcontains]
    split
    · exact .inr ⟨_, _, rfl, rfl, rfl, htwins⟩
    · exact .inl ⟨_, rfl, rfl⟩

theorem Context.Twins.rangeArg :
    (rangeArg ctx r.sheet r.area).Twins (rangeArg ctx' (f r.sheet) r.area) := by
  unfold Gridcalc.rangeArg
  rcases h.view hmeans hr with ⟨x, hx, hx'⟩ | ⟨v, v', hv, hv', htwins⟩
  · rw [hx, hx']
    exact .value _
  · rw [hv, hv']
    exact .range htwins

theorem Context.Twins.rangeAsArgument_eq :
    rangeAsArgument ctx r.sheet r.area = rangeAsArgument ctx' (f r.sheet) r.area := by
  unfold rangeAsArgument
  rcases h.view hmeans hr with ⟨x, hx, hx'⟩ | ⟨v, v', hv, hv', htwins⟩
  · rw [hx, hx']
  · rw [hv, hv']
    dsimp only
    rw [htwins.alike.single?_eq]

theorem Context.Twins.rangeAsScalar_eq :
    rangeAsScalar ctx r.sheet r.area = rangeAsScalar ctx' (f r.sheet) r.area := by
  unfold rangeAsScalar
  rcases h.view hmeans hr with ⟨x, hx, hx'⟩ | ⟨v, v', hv, hv', htwins⟩
  · rw [hx, hx']
  · rw [hv, hv']

omit hr in
theorem Context.Twins.cellValue_eq {sheet : Option String} {a : CellRef}
    (hr : .cell sheet a ∈ e.references) : ctx.cellValue sheet a = ctx'.cellValue (f sheet) a := by
  have hsheet : Option.Rel Worksheet.Twins (ctx.sheetOf? sheet) (ctx'.sheetOf? (f sheet)) :=
    h.sheetOf? hmeans hr
  unfold Context.cellValue
  generalize ctx.sheetOf? sheet = x at hsheet ⊢
  generalize ctx'.sheetOf? (f sheet) = x' at hsheet ⊢
  cases hsheet with
  | none => rfl
  | @some ws ws' htwins =>
    dsimp only
    rw [htwins.inBounds_eq, htwins.value]

omit hr in
/-- A tree with one value in both places is a twin argument. -/
theorem Context.Twins.argOf (kind : ArgKind) (v : Value) :
    (argOf ctx kind e v).Twins (argOf ctx' kind (e.mapSheets f) v) := by
  cases e with
  | range sheet r =>
    have hr : Reference.range sheet r ∈ (Expr.range sheet r).references := List.mem_cons_self
    have hrange := h.rangeArg hmeans hr
    have hsingle : rangeAsArgument ctx sheet r = rangeAsArgument ctx' (f sheet) r :=
      h.rangeAsArgument_eq hmeans hr
    cases kind with
    | scalar =>
      have hargument : Gridcalc.argOf ctx .scalar (.range sheet r) v =
          .value (rangeAsArgument ctx sheet r) := rfl
      rw [hargument, hsingle]
      exact .value _
    | range => exact hrange
    | any => exact hrange
  | cell sheet a =>
    have hr : Reference.cell sheet a ∈ (Expr.cell sheet a).references := List.mem_cons_self
    have hrange := h.rangeArg hmeans hr
    cases kind with
    | scalar => exact .value _
    | range => exact hrange
    | any => exact hrange
  | _ => cases kind <;> exact .value _

end References

/-! ## 3. Calls -/

section Calls

variable {ctx ctx' : Context} {args args' : List Arg}

/-- **A call with twin arguments** gives the same result, unless it is evaluated anew each time. -/
theorem run_eq_of_twins (h : ctx.Twins ctx') {f : Builtin} {es : List Expr} (hmem : f ∈ builtins)
    (hv : f.isVolatile = false) (hargs : evaluateArgs ctx f 0 es = .ok args)
    (htwins : List.Forall₂ Arg.Twins args args') : f.run args ctx = f.run args' ctx' := by
  have halike : ArgsAlike True args args' := htwins.imp fun _ _ => Arg.Twins.alike
  rcases Builtin.reach_of_mem hmem with
    hanew | hscalars | hlocal | ⟨-, hlocal⟩ | hstretches
  · rw [hv] at hanew
    cases hanew
  · rw [halike.eq_of_values (evaluateArgs_onlyScalars hscalars hargs)]
    exact hscalars.2 args' ctx ctx'
  · exact hlocal halike h.row h.col
  · exact hlocal _ _ _ _ _ trivial halike
  · -- the stretched rectangle lies in twins, so it holds the same wherever it ends
    refine Builtin.run_congr_of_stretches hmem hstretches ?_ ctx ctx'
    refine Builtin.conditionalNumbers_congr halike ?_
    intro tested summed summed' _ hs hs' row col _
    obtain ⟨hlt, hs⟩ := List.getElem?_eq_some_iff.mp hs
    obtain ⟨hlt', hs'⟩ := List.getElem?_eq_some_iff.mp hs'
    have hpair := htwins.get hlt hlt'
    rw [List.get_eq_getElem, List.get_eq_getElem, hs, hs'] at hpair
    cases hpair with
    | range hpair => exact hpair.sheet.value row col

end Calls

/-! ## 4. Trees -/

section Trees

variable {f : Option String → Option String} {e : Expr} {ctx ctx' : Context}

/-- The arguments of a call are twins, or have the same fault. -/
theorem evaluateArgs_mapSheets (h : ctx.Twins ctx') (b : Builtin) {es : List Expr} (i : Nat)
    (hmeans : ∀ e ∈ es, KeepsMeaning f ctx.sheets ctx'.sheets ctx.sheet e)
    (hvalues : ∀ e ∈ es, ∀ i,
      evaluate (ctx'.branch i) (e.mapSheets f) = evaluate (ctx.branch i) e) :
    (∃ fault, evaluateArgs ctx b i es = .error fault ∧
        evaluateArgs ctx' b i (es.map (Expr.mapSheets f)) = .error fault) ∨
      ∃ args args', evaluateArgs ctx b i es = .ok args ∧
        evaluateArgs ctx' b i (es.map (Expr.mapSheets f)) = .ok args' ∧
        List.Forall₂ Arg.Twins args args' := by
  induction es generalizing i with
  | nil => exact .inr ⟨[], [], rfl, rfl, .nil⟩
  | cons e es ih =>
    have hrest := ih (i + 1) (fun e he => hmeans e (List.mem_cons_of_mem _ he))
      fun e he => hvalues e (List.mem_cons_of_mem _ he)
    rw [List.map_cons]
    simp only [evaluateArgs, hvalues e List.mem_cons_self]
    cases evaluate (ctx.branch i) e with
    | error fault => exact .inl ⟨fault, rfl, rfl⟩
    | ok v =>
      rcases hrest with ⟨fault, hx, hx'⟩ | ⟨args, args', hx, hx', htwins⟩
      · rw [hx, hx']
        exact .inl ⟨fault, rfl, rfl⟩
      · rw [hx, hx']
        have harg := h.argOf (hmeans e List.mem_cons_self) (b.kindAt i) v
        exact .inr ⟨_, _, rfl, rfl, .cons harg htwins⟩

/-- A call gives the same result if its arguments do, unless it is evaluated anew each time. -/
theorem evaluate_call_mapSheets (h : ctx.Twins ctx') {name : String} {args : List Expr}
    (hmeans : ∀ e ∈ args, KeepsMeaning f ctx.sheets ctx'.sheets ctx.sheet e)
    (hvalues : ∀ e ∈ args, ∀ i,
      evaluate (ctx'.branch i) (e.mapSheets f) = evaluate (ctx.branch i) e)
    (hsteady : isVolatileName name = false) :
    evaluate ctx' (.call name (args.map (Expr.mapSheets f))) = evaluate ctx (.call name args) := by
  simp only [evaluate, List.length_map]
  cases hf : findBuiltin? name with
  | none => rfl
  | some b =>
    have hv := isVolatile_of_name hf hsteady
    by_cases hacc : b.accepts args.length = true
    · simp only [hacc, if_true]
      rcases evaluateArgs_mapSheets h b 0 hmeans hvalues with
        ⟨fault, hx, hx'⟩ | ⟨values, values', hx, hx', htwins⟩
      · rw [hx, hx']
        rfl
      · have hrun := run_eq_of_twins h (mem_builtins_of_find hf) hv hx htwins
        simp only [hx, hx', bind, Except.bind, hrun]
    · simp only [hacc]
      rfl

/-- **A tree with other names of sheets has the same value** where it means the same sheets. -/
theorem evaluate_mapSheets (h : ctx.Twins ctx')
    (hmeans : KeepsMeaning f ctx.sheets ctx'.sheets ctx.sheet e)
    (hsteady : ∀ name ∈ e.functionNames, isVolatileName name = false) :
    evaluate ctx' (e.mapSheets f) = evaluate ctx e := by
  induction e using Expr.treeInduction generalizing ctx ctx' with
  | cell sheet a =>
    have hvalue : ctx.cellValue sheet a = ctx'.cellValue (f sheet) a :=
      h.cellValue_eq hmeans List.mem_cons_self
    rw [Expr.mapSheets_cell, evaluate, evaluate, hvalue]
  | range sheet r =>
    have hvalue : rangeAsScalar ctx sheet r = rangeAsScalar ctx' (f sheet) r :=
      h.rangeAsScalar_eq hmeans (r := .range sheet r) List.mem_cons_self
    rw [Expr.mapSheets_range, evaluate, evaluate, hvalue]
  | binary op left right hleft hright =>
    have hl := hleft (h.branch 0) (KeepsMeaning.left hmeans)
      fun name hname => hsteady name (List.mem_append_left _ hname)
    have hr := hright (h.branch 1) (KeepsMeaning.right hmeans)
      fun name hname => hsteady name (List.mem_append_right _ hname)
    rw [Expr.mapSheets_binary]
    simp only [evaluate, hl, hr]
  | call name args ih =>
    rw [Expr.functionNames, Expr.functionNamesOfArgs_eq, List.forall_mem_cons] at hsteady
    rw [Expr.mapSheets_call]
    refine evaluate_call_mapSheets h (fun e he => KeepsMeaning.arg hmeans he) (fun e he i => ?_) hsteady.1
    exact ih e he (h.branch i) (KeepsMeaning.arg hmeans he) fun name hname =>
      hsteady.2 name (List.mem_flatMap_of_mem he hname)
  | _ => rfl

/-- **What a cell shows for a formula** is the same where sheets have other names. -/
theorem evaluateFormula_mapSheets (h : ctx.Twins ctx')
    (hmeans : KeepsMeaning f ctx.sheets ctx'.sheets ctx.sheet e) (hv : e.isVolatile = false) :
    evaluateFormula ctx' (some (e.mapSheets f)) = evaluateFormula ctx (some e) := by
  have hsteady : ∀ name ∈ e.functionNames, isVolatileName name = false := by
    unfold Expr.isVolatile at hv
    rw [List.any_eq_false] at hv
    exact fun name hname => Bool.eq_false_iff.mpr (hv name hname)
  have hvalue := evaluate_mapSheets h hmeans hsteady
  cases e with
  | range sheet r =>
    have hview := h.view hmeans (r := .range sheet r) List.mem_cons_self
    rw [Expr.mapSheets_range]
    unfold evaluateFormula
    dsimp only [Reference.sheet, Reference.area] at hview
    rcases hview with ⟨x, hx, hx'⟩ | ⟨v, v', hx, hx', htwins⟩
    · simp only [hx, hx']
    · simp only [hx, hx', htwins.alike.values_eq]
  | cell sheet a => exact congrArg (Except.map shownResult) hvalue
  | call name args =>
    rw [Expr.mapSheets_call] at hvalue ⊢
    exact congrArg (Except.map shownResult) hvalue
  | _ => exact congrArg (Except.map shownResult) hvalue

end Trees

end Gridcalc
