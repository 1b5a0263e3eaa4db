import Gridcalc.Proofs.Evaluation.Beside
import Gridcalc.Proofs.Sheet.WellFormed

/-!
# What an evaluation looks at

Two evaluations of one formula at one position agree as soon as the sheets have the same names and
sizes and hold the same where the formula looks.

* `Context.Aligned`: two places of a formula with the same position in sheets of the same names and
  sizes; `Context.Matched` says the same of sheets in which the same rows are hidden as well;
* `ReadsAlike`: the same values and formulas in all cells that a formula refers to, and in all cells
  of its stretched rectangles, and the same hidden rows if it calls a summary;
* `evaluate_congr`, `evaluateFormula_congr`: then the results are the same;
* `evaluateFormula_of_tracked`: for a formula whose reading is known, the cells of `precedentsOf`
  suffice.
-/

namespace Gridcalc

/-! ## 1. Aligned places -/

namespace Context

/-- The same position in sheets of the same names and sizes. -/
structure Aligned (ctx ctx' : Context) : Prop where
  sheet : ctx.sheet = ctx'.sheet
  row : ctx.row = ctx'.row
  col : ctx.col = ctx'.col
  outlines : ctx.sheets.map Worksheet.outline = ctx'.sheets.map Worksheet.outline
  bounded : ∀ ws ∈ ctx.sheets, ws.Bounded
  bounded' : ∀ ws ∈ ctx'.sheets, ws.Bounded

/-- The same hidden rows in every sheet. -/
def HidesAlike (ctx ctx' : Context) : Prop :=
  ∀ (i : Nat) (ws ws' : Worksheet), ctx.sheets[i]? = some ws → ctx'.sheets[i]? = some ws' →
    ∀ row, ws.isHidden row = ws'.isHidden row

/-- The same position in sheets with the same frames. -/
structure Matched (ctx ctx' : Context) : Prop where
  sheet : ctx.sheet = ctx'.sheet
  row : ctx.row = ctx'.row
  col : ctx.col = ctx'.col
  frames : SameFrames ctx.sheets ctx'.sheets
  bounded : ∀ ws ∈ ctx.sheets, ws.Bounded
  bounded' : ∀ ws ∈ ctx'.sheets, ws.Bounded

variable {ctx ctx' : Context}

theorem Matched.aligned (h : ctx.Matched ctx') : ctx.Aligned ctx' :=
  ⟨h.sheet, h.row, h.col, h.frames.map_outline_eq, h.bounded, h.bounded'⟩

theorem Matched.hidesAlike (h : ctx.Matched ctx') : ctx.HidesAlike ctx' := by
  intro i ws ws' hws hws' row
  obtain ⟨ws₂, hws₂, hframe⟩ := h.frames.getElem? hws
  obtain rfl : ws' = ws₂ := Option.some.inj (hws'.symm.trans hws₂)
  exact isHidden_of_frame hframe row

theorem Aligned.branch (h : ctx.Aligned ctx') (i j : Nat) :
    (ctx.branch i).Aligned (ctx'.branch j) :=
  ⟨h.sheet, h.row, h.col, h.outlines, h.bounded, h.bounded'⟩

/-- The sheets that a reference means in two aligned places. -/
theorem Aligned.sheetOf? (h : ctx.Aligned ctx') (name : Option String) :
    (ctx.sheetOf? name = none ∧ ctx'.sheetOf? name = none) ∨
      ∃ i ws ws', sheetOfReference? ctx.sheets ctx.sheet name = some i ∧
        ctx.sheets[i]? = some ws ∧ ctx'.sheets[i]? = some ws' ∧ ws.outline = ws'.outline ∧
        ctx.sheetOf? name = some ws ∧ ctx'.sheetOf? name = some ws' := by
  have hname := sheetOfReference?_eq_of_outlines h.outlines ctx.sheet name
  unfold Context.sheetOf?
  rw [← h.sheet, ← hname]
  cases hi : sheetOfReference? ctx.sheets ctx.sheet name with
  | none => exact .inl ⟨rfl, rfl⟩
  | some i =>
    simp only [Option.bind_some]
    cases hws : ctx.sheets[i]? with
    | none =>
      left
      refine ⟨rfl, ?_⟩
      cases hws' : ctx'.sheets[i]? with
      | none => rfl
      | some ws' =>
        obtain ⟨ws, hw, -⟩ := getElem?_of_outlines h.outlines.symm hws'
        rw [hws] at hw
        cases hw
    | some ws =>
      obtain ⟨ws', hws', hf⟩ := getElem?_of_outlines h.outlines hws
      exact .inr ⟨i, ws, ws', rfl, hws, hws', hf, rfl, hws'⟩

/-! ## 2. References in aligned places -/

/-- The same values and formulas in the cells of a reference. -/
def HoldsAlike (ctx ctx' : Context) (r : Reference) : Prop :=
  ∀ key ∈ r.precedents ctx.sheets ctx.sheet, AgreeAt ctx.sheets ctx'.sheets key

theorem HoldsAlike.at {r : Reference} (h : HoldsAlike ctx ctx' r) {i row col : Nat}
    {ws ws' : Worksheet} (hi : sheetOfReference? ctx.sheets ctx.sheet r.sheet = some i)
    (hws : ctx.sheets[i]? = some ws) (hws' : ctx'.sheets[i]? = some ws')
    (hin : r.area.contains row col = true) (hb : ws.inBounds row col = true) :
    ws.valueAt row col = ws'.valueAt row col ∧
      ws.formulaAt? row col = ws'.formulaAt? row col := by
  have hmem : CellKey.mk i row col ∈ r.precedents ctx.sheets ctx.sheet :=
    Reference.mem_precedents.mpr ⟨hi, ws, hws, hin, hb⟩
  have hagree := h _ hmem
  unfold AgreeAt at hagree
  rwa [valueIn_eq hws, valueIn_eq hws', formulaIn_eq hws, formulaIn_eq hws'] at hagree

/-- A reference has alike views in aligned places, or the same error. -/
theorem Aligned.view (h : ctx.Aligned ctx') {r : Reference} (hr : HoldsAlike ctx ctx' r) :
    (∃ e, ctx.view r.sheet r.area = .error e ∧ ctx'.view r.sheet r.area = .error e) ∨
      ∃ v v', ctx.view r.sheet r.area = .ok v ∧ ctx'.view r.sheet r.area = .ok v' ∧
        v.Alike (ctx.HidesAlike ctx') v' := by
  unfold Context.view
  rcases h.sheetOf? r.sheet with ⟨hn, hn'⟩ | ⟨i, ws, ws', hi, hws, hws', hf, hs, hs'⟩
  · rw [hn, hn']
    exact .inl ⟨_, rfl, rfl⟩
  · rw [hs, hs']
    dsimp only
    have hcontains : ws.containsRange r.area = ws'.containsRange r.area :=
      inBounds_of_outline hf _ _
    rw [← hcontains]
    by_cases hc : ws.containsRange r.area = true
    · simp only [hc, if_true]
      refine .inr ⟨_, _, rfl, rfl, rfl, fun row col hin => ?_, fun row col hin => ?_, fun hs => ?_⟩
      · exact (hr.at hi hws hws' hin (inBounds_of_contains hc hin)).1
      · exact congrArg _ (hr.at hi hws hws' hin (inBounds_of_contains hc hin)).2
      · exact hs i ws ws' hws hws'
    · simp only [hc]
      exact .inl ⟨_, rfl, rfl⟩

theorem Aligned.cellValue_eq (h : ctx.Aligned ctx') {sheet : Option String} {r : CellRef}
    (hr : HoldsAlike ctx ctx' (.cell sheet r)) :
    ctx.cellValue sheet r = ctx'.cellValue sheet r := by
  unfold Context.cellValue
  rcases h.sheetOf? sheet with ⟨hn, hn'⟩ | ⟨i, ws, ws', hi, hws, hws', hf, hs, hs'⟩
  · rw [hn, hn']
  · rw [hs, hs']
    dsimp only
    rw [← inBounds_of_outline hf]
    by_cases hb : ws.inBounds r.row r.col = true
    · simp only [hb, if_true]
      refine (hr.at hi hws hws' ?_ hb).1
      rw [RangeRef.contains_iff]
      simp [Reference.area, RangeRef.single, RangeRef.firstRow, RangeRef.lastRow,
        RangeRef.firstCol, RangeRef.lastCol]
    · simp only [hb, Bool.false_eq_true, if_false]

end Context

/-! ## 3. Arguments in aligned places -/

section Arguments

variable {ctx ctx' : Context}

theorem rangeArg_alike (h : ctx.Aligned ctx') {r : Reference} (hr : ctx.HoldsAlike ctx' r) :
    (rangeArg ctx r.sheet r.area).Alike (ctx.HidesAlike ctx') (rangeArg ctx' r.sheet r.area) := by
  unfold rangeArg
  rcases h.view hr with ⟨e, he, he'⟩ | ⟨v, v', hv, hv', hal⟩
  · rw [he, he']
    exact .value _
  · rw [hv, hv']
    exact .range hal

theorem rangeAsArgument_eq (h : ctx.Aligned ctx') {r : Reference} (hr : ctx.HoldsAlike ctx' r) :
    rangeAsArgument ctx r.sheet r.area = rangeAsArgument ctx' r.sheet r.area := by
  unfold rangeAsArgument
  rcases h.view hr with ⟨e, he, he'⟩ | ⟨v, v', hv, hv', hal⟩
  · rw [he, he']
  · rw [hv, hv']
    dsimp only
    rw [hal.single?_eq]

theorem rangeAsScalar_eq (h : ctx.Aligned ctx') {r : Reference} (hr : ctx.HoldsAlike ctx' r) :
    rangeAsScalar ctx r.sheet r.area = rangeAsScalar ctx' r.sheet r.area := by
  unfold rangeAsScalar
  rcases h.view hr with ⟨e, he, he'⟩ | ⟨v, v', hv, hv', hal⟩
  · rw [he, he']
  · rw [hv, hv']

/-- A tree with one value in both places is one argument in both. -/
theorem argOf_alike (h : ctx.Aligned ctx') (kind : ArgKind) (e : Expr) (v : Value)
    (hr : ∀ r ∈ e.references, ctx.HoldsAlike ctx' r) :
    (argOf ctx kind e v).Alike (ctx.HidesAlike ctx') (argOf ctx' kind e v) := by
  cases e with
  | range sheet r =>
    have hr := hr (.range sheet r) List.mem_cons_self
    have hview := rangeArg_alike h hr
    have hsingle : rangeAsArgument ctx sheet r = rangeAsArgument ctx' sheet r :=
      rangeAsArgument_eq h hr
    cases kind with
    | scalar =>
      simp only [argOf, hsingle]
      exact .value _
    | range => exact hview
    | any => exact hview
  | cell sheet r =>
    have hr := hr (.cell sheet r) List.mem_cons_self
    have hview := rangeArg_alike h hr
    cases kind with
    | scalar => exact .value _
    | range => exact hview
    | any => exact hview
  | _ => cases kind <;> exact .value _

/-- An argument that is a rectangle comes from a reference that lies in its sheet. -/
theorem argOf_eq_range {kind : ArgKind} {e : Expr} {v : Value} {view : RangeView}
    (h : argOf ctx kind e v = .range view) :
    ∃ r, e.reference? = some r ∧ ctx.view r.sheet r.area = .ok view := by
  have hview : ∀ r : Reference, rangeArg ctx r.sheet r.area = .range view →
      ctx.view r.sheet r.area = .ok view := by
    intro r hr
    unfold rangeArg at hr
    split at hr
    · rename_i hv
      rw [hv, Arg.range.inj hr]
    · cases hr
  cases e with
  | range sheet r =>
    cases kind with
    | scalar => cases h
    | range => exact ⟨.range sheet r, rfl, hview (.range sheet r) h⟩
    | any => exact ⟨.range sheet r, rfl, hview (.range sheet r) h⟩
  | cell sheet r =>
    cases kind with
    | scalar => cases h
    | range => exact ⟨.cell sheet r, rfl, hview (.cell sheet r) h⟩
    | any => exact ⟨.cell sheet r, rfl, hview (.cell sheet r) h⟩
  | _ => cases kind <;> cases h

/-- Single values are no rectangles. -/
theorem argOf_scalar_ne_range {e : Expr} {v : Value} {view : RangeView} :
    argOf ctx .scalar e v ≠ .range view := by
  cases e <;> simp [argOf]

/-- Every argument of a call comes from the tree in its place. -/
theorem evaluateArgs_getElem? {f : Builtin} {i : Nat} {es : List Expr} {args : List Arg}
    (h : evaluateArgs ctx f i es = .ok args) {k : Nat} {a : Arg} (ha : args[k]? = some a) :
    ∃ e v, es[k]? = some e ∧ a = argOf ctx (f.kindAt (i + k)) e v := by
  induction es generalizing i args k with
  | nil =>
    unfold evaluateArgs at h
    cases h
    simp at ha
  | cons e es ih =>
    unfold evaluateArgs at h
    cases hv : evaluate (ctx.branch i) e with
    | error fault => rw [hv] at h; cases h
    | ok v =>
      rw [hv] at h
      cases hrest : evaluateArgs ctx f (i + 1) es with
      | error fault => rw [hrest] at h; cases h
      | ok rest =>
        rw [hrest] at h
        cases h
        cases k with
        | zero => exact ⟨e, v, rfl, (Option.some.inj ha).symm⟩
        | succ k =>
          obtain ⟨e', v', he', hav⟩ := ih hrest ha
          refine ⟨e', v', he', ?_⟩
          rw [hav, Nat.add_assoc, Nat.add_comm 1 k]

/-- A function of single values gets no rectangle. -/
theorem evaluateArgs_onlyScalars {f : Builtin} (hf : f.OnlyScalars) {es : List Expr}
    {args : List Arg} (h : evaluateArgs ctx f 0 es = .ok args) : ∀ a ∈ args, ∃ v, a = .value v := by
  intro a ha
  obtain ⟨k, hk⟩ := List.mem_iff_getElem?.mp ha
  obtain ⟨e, v, -, rfl⟩ := evaluateArgs_getElem? h hk
  have hkind : f.kindAt (0 + k) = .scalar := by
    unfold Builtin.kindAt
    rw [hf.1]
    rcases k with _ | k <;> rfl
  rw [hkind]
  cases ha : argOf ctx .scalar e v with
  | value v => exact ⟨v, rfl⟩
  | range view => exact absurd ha argOf_scalar_ne_range

end Arguments

/-! ## 4. Calls in aligned places -/

section Calls

variable {ctx ctx' : Context}

/-- The same in the cells of a call's stretched rectangle. -/
def HoldsAlikeBeside (ctx ctx' : Context) (name : String) (args : List Expr) : Prop :=
  ∀ key ∈ besideOfCall ctx.sheets ctx.sheet name args, AgreeAt ctx.sheets ctx'.sheets key

/-- What a view shows lies in the sheet that its reference means. -/
theorem view_eq_ok {r : Reference} {view : RangeView} (h : ctx.view r.sheet r.area = .ok view) :
    view.range = r.area ∧ r.isInside ctx.sheets ctx.sheet = true ∧
      ∃ i, sheetOfReference? ctx.sheets ctx.sheet r.sheet = some i ∧
        ctx.sheets[i]? = some view.sheet := by
  unfold Context.view Context.sheetOf? at h
  unfold Reference.isInside
  cases hi : sheetOfReference? ctx.sheets ctx.sheet r.sheet with
  | none => rw [hi] at h; cases h
  | some i =>
    simp only [hi, Option.bind_some] at h ⊢
    cases hws : ctx.sheets[i]? with
    | none => rw [hws] at h; cases h
    | some ws =>
      simp only [hws] at h
      split at h
      · rename_i hc
        cases h
        exact ⟨rfl, by simpa using hc, i, rfl, hws⟩
      · cases h

/-- Sheets of aligned places hold the same value in a cell, if they do so within their bounds. -/
theorem Context.Aligned.valueAt_eq (h : ctx.Aligned ctx') {i row col : Nat} {ws ws' : Worksheet}
    (hws : ctx.sheets[i]? = some ws) (hws' : ctx'.sheets[i]? = some ws')
    (hin : ws.inBounds row col = true → ws.valueAt row col = ws'.valueAt row col) :
    ws.valueAt row col = ws'.valueAt row col := by
  by_cases hb : ws.inBounds row col = true
  · exact hin hb
  · -- beyond the edge of the sheet there is nothing in either place
    obtain ⟨ws₂, hws₂, houtline⟩ := getElem?_of_outlines h.outlines hws
    obtain rfl : ws' = ws₂ := Option.some.inj (hws'.symm.trans hws₂)
    have hb := Bool.eq_false_iff.mpr hb
    have hb' := inBounds_of_outline houtline row col ▸ hb
    rw [(h.bounded _ (List.mem_of_getElem? hws)).valueAt_eq_empty hb,
      (h.bounded' _ (List.mem_of_getElem? hws')).valueAt_eq_empty hb']

/-- The cells that a call with three arguments sums are those of its stretched rectangle. -/
theorem mem_besideOfCall_of_views {name : String} {es : List Expr} {et es₂ : Expr}
    {rt rs : Reference} {tested summed : RangeView} (hname : isStretchingName name = true)
    (hlen : es.length = 3) (het : es[0]? = some et) (hes : es[2]? = some es₂)
    (hrt : et.reference? = some rt) (hrs : es₂.reference? = some rs)
    (ht : ctx.view rt.sheet rt.area = .ok tested) (hs : ctx.view rs.sheet rs.area = .ok summed)
    {i row col : Nat} (hi : sheetOfReference? ctx.sheets ctx.sheet rs.sheet = some i)
    (hin : (Builtin.besideRange tested.range summed.range).contains row col = true)
    (hb : summed.sheet.inBounds row col = true) :
    CellKey.mk i row col ∈ besideOfCall ctx.sheets ctx.sheet name es := by
  obtain ⟨htr, htin, -⟩ := view_eq_ok ht
  obtain ⟨hsr, hsin, i', hi', hws⟩ := view_eq_ok hs
  obtain rfl : i = i' := Option.some.inj (hi.symm.trans hi')
  unfold besideOfCall
  simp only [het, hes, Option.bind_some, hrt, hrs, hname, hlen, htin, hsin, Bool.and_true,
    beq_self_eq_true, if_true]
  refine Reference.mem_precedents.mpr ⟨hi, _, hws, ?_, hb⟩
  rw [htr, hsr] at hin
  exact hin

/-- A function that stretches a rectangle and has three arguments has no more than these. -/
theorem length_of_stretches {f : Builtin} {es : List Expr} {e : Expr} (hmem : f ∈ builtins)
    (hstretches : f.stretches = true) (hacc : f.accepts es.length = true) (he : es[2]? = some e) :
    es.length = 3 := by
  have hlt : 2 < es.length := (List.getElem?_eq_some_iff.mp he).1
  have hle : es.length ≤ 3 := by
    rcases Builtin.eq_of_stretches hmem hstretches with rfl | rfl
    · simp [Builtin.accepts] at hacc; omega
    · simp [Builtin.accepts] at hacc; omega
  omega

/-- **A call that stretches a rectangle** sums the same values in aligned places. -/
theorem run_congr_of_stretches (h : ctx.Aligned ctx') {name : String} {f : Builtin}
    {es : List Expr} {args args' : List Arg} (hf : findBuiltin? name = some f)
    (hstretches : f.stretches = true) (hacc : f.accepts es.length = true)
    (hargs : evaluateArgs ctx f 0 es = .ok args) (hargs' : evaluateArgs ctx' f 0 es = .ok args')
    {shown : Prop} (hal : ArgsAlike shown args args')
    (hbeside : HoldsAlikeBeside ctx ctx' name es) :
    f.run args ctx = f.run args' ctx' := by
  have hmem := mem_builtins_of_find hf
  refine Builtin.run_congr_of_stretches hmem hstretches ?_ ctx ctx'
  refine Builtin.conditionalNumbers_congr hal ?_
  intro tested summed summed' ht hs hs' row col hin
  -- the references that the rectangles come from
  obtain ⟨et, vt, het, ht⟩ := evaluateArgs_getElem? hargs ht
  obtain ⟨es₂, vs, hes, hs⟩ := evaluateArgs_getElem? hargs hs
  obtain ⟨es₂', vs', hes', hs'⟩ := evaluateArgs_getElem? hargs' hs'
  obtain rfl : es₂ = es₂' := Option.some.inj (hes.symm.trans hes')
  obtain ⟨rt, hrt, htv⟩ := argOf_eq_range ht.symm
  obtain ⟨rs, hrs, hsv⟩ := argOf_eq_range hs.symm
  obtain ⟨rs', hrs', hsv'⟩ := argOf_eq_range hs'.symm
  obtain rfl : rs = rs' := Option.some.inj (hrs.symm.trans hrs')
  obtain ⟨-, -, i, hi, hws⟩ := view_eq_ok hsv
  obtain ⟨-, -, i', hi', hws'⟩ := view_eq_ok hsv'
  obtain rfl : i = i' := by
    rw [← h.sheet, ← sheetOfReference?_eq_of_outlines h.outlines, hi] at hi'
    exact Option.some.inj hi'
  refine h.valueAt_eq hws hws' fun hb => ?_
  have hname : isStretchingName name = true := by simp [isStretchingName, hf, hstretches]
  have hlen := length_of_stretches hmem hstretches hacc hes
  have hkey := mem_besideOfCall_of_views hname hlen het hes hrt hrs htv hsv hi hin hb
  have hagree := (hbeside _ hkey).1
  rwa [valueIn_eq hws, valueIn_eq hws'] at hagree

/-- Whether the function with a name may leave out hidden rows. -/
def isSummaryName (name : String) : Bool := (findBuiltin? name).any Builtin.summarises

/-- **A call with alike arguments** gives the same result, unless it is evaluated anew each time; a
    summary does if the same rows are hidden. -/
theorem run_congr (h : ctx.Aligned ctx') {name : String} {f : Builtin} {es : List Expr}
    {args args' : List Arg} (hf : findBuiltin? name = some f) (hv : f.isVolatile = false)
    (hacc : f.accepts es.length = true) (hargs : evaluateArgs ctx f 0 es = .ok args)
    (hargs' : evaluateArgs ctx' f 0 es = .ok args') {shown : Prop}
    (hshown : isSummaryName name = true → shown) (hal : ArgsAlike shown args args')
    (hbeside : HoldsAlikeBeside ctx ctx' name es) : f.run args ctx = f.run args' ctx' := by
  rcases Builtin.reach_of_mem (mem_builtins_of_find hf) with
    hanew | hscalars | hlocal | ⟨hsummary, hlocal⟩ | hstretches
  · rw [hv] at hanew
    cases hanew
  · rw [hal.eq_of_values (evaluateArgs_onlyScalars hscalars hargs)]
    exact hscalars.2 args' ctx ctx'
  · exact hlocal hal h.row h.col
  · exact hlocal _ _ _ _ _ (hshown (by simp [isSummaryName, hf, hsummary])) hal
  · exact run_congr_of_stretches h hf hstretches hacc hargs hargs' hal hbeside

end Calls

/-! ## 5. Trees in aligned places -/

/-- The same wherever a formula looks. -/
structure ReadsAlike (ctx ctx' : Context) (e : Expr) : Prop where
  steady : ∀ name ∈ e.functionNames, isVolatileName name = false
  shown : ∀ name ∈ e.functionNames, isSummaryName name = true → ctx.HidesAlike ctx'
  references : ∀ r ∈ e.references, ctx.HoldsAlike ctx' r
  beside : ∀ c ∈ e.calls, HoldsAlikeBeside ctx ctx' c.1 c.2

/-- The same wherever the arguments of a call look. -/
structure ArgsReadAlike (ctx ctx' : Context) (es : List Expr) : Prop where
  steady : ∀ name ∈ Expr.functionNamesOfArgs es, isVolatileName name = false
  shown : ∀ name ∈ Expr.functionNamesOfArgs es, isSummaryName name = true → ctx.HidesAlike ctx'
  references : ∀ r ∈ Expr.referencesOfArgs es, ctx.HoldsAlike ctx' r
  beside : ∀ c ∈ Expr.callsOfArgs es, HoldsAlikeBeside ctx ctx' c.1 c.2

section Trees

variable {ctx ctx' : Context}

theorem ReadsAlike.branch {e : Expr} (h : ReadsAlike ctx ctx' e) (i j : Nat) :
    ReadsAlike (ctx.branch i) (ctx'.branch j) e :=
  ⟨h.steady, h.shown, h.references, h.beside⟩

theorem ReadsAlike.left {op : Operator} {l r : Expr} (h : ReadsAlike ctx ctx' (.binary op l r)) :
    ReadsAlike ctx ctx' l :=
  ⟨fun n hn => h.steady n (List.mem_append_left _ hn),
    fun n hn => h.shown n (List.mem_append_left _ hn),
    fun x hx => h.references x (List.mem_append_left _ hx),
    fun c hc => h.beside c (List.mem_append_left _ hc)⟩

theorem ReadsAlike.right {op : Operator} {l r : Expr} (h : ReadsAlike ctx ctx' (.binary op l r)) :
    ReadsAlike ctx ctx' r :=
  ⟨fun n hn => h.steady n (List.mem_append_right _ hn),
    fun n hn => h.shown n (List.mem_append_right _ hn),
    fun x hx => h.references x (List.mem_append_right _ hx),
    fun c hc => h.beside c (List.mem_append_right _ hc)⟩

theorem ReadsAlike.args {name : String} {es : List Expr}
    (h : ReadsAlike ctx ctx' (.call name es)) : ArgsReadAlike ctx ctx' es :=
  ⟨fun n hn => h.steady n (List.mem_cons_of_mem _ hn),
    fun n hn => h.shown n (List.mem_cons_of_mem _ hn), h.references,
    fun c hc => h.beside c (List.mem_cons_of_mem _ hc)⟩

theorem ArgsReadAlike.head {e : Expr} {es : List Expr} (h : ArgsReadAlike ctx ctx' (e :: es)) :
    ReadsAlike ctx ctx' e :=
  ⟨fun n hn => h.steady n (List.mem_append_left _ hn),
    fun n hn => h.shown n (List.mem_append_left _ hn),
    fun x hx => h.references x (List.mem_append_left _ hx),
    fun c hc => h.beside c (List.mem_append_left _ hc)⟩

theorem ArgsReadAlike.tail {e : Expr} {es : List Expr} (h : ArgsReadAlike ctx ctx' (e :: es)) :
    ArgsReadAlike ctx ctx' es :=
  ⟨fun n hn => h.steady n (List.mem_append_right _ hn),
    fun n hn => h.shown n (List.mem_append_right _ hn),
    fun x hx => h.references x (List.mem_append_right _ hx),
    fun c hc => h.beside c (List.mem_append_right _ hc)⟩

/-- The function of a steady call is not evaluated anew each time. -/
theorem isVolatile_of_name {name : String} {f : Builtin} (hf : findBuiltin? name = some f)
    (hv : isVolatileName name = false) : f.isVolatile = false := by
  simpa [isVolatileName, hf] using hv

mutual

/-- **A tree has the same value in aligned places** that hold the same wherever it looks. -/
theorem evaluate_congr {ctx ctx' : Context} (h : ctx.Aligned ctx') :
    ∀ e : Expr, ReadsAlike ctx ctx' e → evaluate ctx e = evaluate ctx' e
  | .number _, _ => rfl
  | .text _, _ => rfl
  | .boolean _, _ => rfl
  | .error _, _ => rfl
  | .cell sheet r, hr => by
    simp only [evaluate]
    rw [h.cellValue_eq (hr.references _ List.mem_cons_self)]
  | .range sheet r, hr => by
    have hsame : rangeAsScalar ctx sheet r = rangeAsScalar ctx' sheet r :=
      rangeAsScalar_eq h (hr.references (.range sheet r) List.mem_cons_self)
    simp only [evaluate, hsame]
  | .binary op l r, hr => by
    have hl := evaluate_congr (h.branch 0 0) l (hr.left.branch 0 0)
    have hr' := evaluate_congr (h.branch 1 1) r (hr.right.branch 1 1)
    simp only [evaluate, hl, hr']
  | .call name es, hr => by
    simp only [evaluate]
    cases hf : findBuiltin? name with
    | none => rfl
    | some f =>
      have hv := isVolatile_of_name hf (hr.steady name List.mem_cons_self)
      by_cases hacc : f.accepts es.length = true
      · simp only [hacc, if_true]
        rcases evaluateArgs_congr h f 0 es hr.args with
          ⟨fault, hx, hx'⟩ | ⟨args, args', hx, hx', hal⟩
        · rw [hx, hx']
          rfl
        · have hrun := run_congr h hf hv hacc hx hx' (hr.shown name List.mem_cons_self) hal
            (hr.beside (name, es) List.mem_cons_self)
          simp only [hx, hx', bind, Except.bind, hrun]
      · simp only [hacc]
        rfl

/-- The arguments of a call are alike in aligned places, or have the same fault. -/
theorem evaluateArgs_congr {ctx ctx' : Context} (h : ctx.Aligned ctx') (f : Builtin) (i : Nat) :
    ∀ es : List Expr, ArgsReadAlike ctx ctx' es →
      (∃ fault, evaluateArgs ctx f i es = .error fault ∧ evaluateArgs ctx' f i es = .error fault) ∨
        ∃ args args', evaluateArgs ctx f i es = .ok args ∧ evaluateArgs ctx' f i es = .ok args' ∧
          ArgsAlike (ctx.HidesAlike ctx') args args'
  | [], _ => .inr ⟨[], [], rfl, rfl, .nil⟩
  | e :: es, hr => by
    have hv := evaluate_congr (h.branch i i) e (hr.head.branch i i)
    simp only [evaluateArgs, ← hv]
    cases evaluate (ctx.branch i) e with
    | error fault => exact .inl ⟨fault, rfl, rfl⟩
    | ok v =>
      rcases evaluateArgs_congr h f (i + 1) es hr.tail with
        ⟨fault, hx, hx'⟩ | ⟨args, args', hx, hx', hal⟩
      · rw [hx, hx']
        exact .inl ⟨fault, rfl, rfl⟩
      · rw [hx, hx']
        have ha := argOf_alike h (f.kindAt i) e v hr.head.references
        exact .inr ⟨_, _, rfl, rfl, .cons ha hal⟩

end

/-- **What a cell shows for a formula** is the same in aligned places. -/
theorem evaluateFormula_congr (h : ctx.Aligned ctx') {e : Expr} (hr : ReadsAlike ctx ctx' e) :
    evaluateFormula ctx (some e) = evaluateFormula ctx' (some e) := by
  have he := evaluate_congr h e hr
  cases e with
  | range sheet r =>
    unfold evaluateFormula
    rcases h.view (hr.references (.range sheet r) List.mem_cons_self) with
      ⟨x, hx, hx'⟩ | ⟨v, v', hv, hv', hal⟩
    · dsimp only [Reference.sheet, Reference.area] at hx hx'
      simp only [hx, hx']
    · dsimp only [Reference.sheet, Reference.area] at hv hv'
      simp only [hv, hv', hal.values_eq]
  | _ => simp only [evaluateFormula, he]

/-! ## 6. Formulas whose reading is known -/

/-- Agreement on the cells of the references and of the stretched rectangles is enough for a formula
    that is not evaluated anew each time. -/
theorem readsAlike_of_steady {e : Expr} (hv : e.isVolatile = false)
    (hshown : ∀ name ∈ e.functionNames, isSummaryName name = true → ctx.HidesAlike ctx')
    (hread : ∀ key ∈ precedentsOf ctx.sheets ctx.sheet e, AgreeAt ctx.sheets ctx'.sheets key)
    (hbeside : ∀ key ∈ e.beside ctx.sheets ctx.sheet, AgreeAt ctx.sheets ctx'.sheets key) :
    ReadsAlike ctx ctx' e where
  steady := by
    unfold Expr.isVolatile at hv
    rw [List.any_eq_false] at hv
    exact fun name hname => Bool.eq_false_iff.mpr (hv name hname)
  shown := hshown
  references r hr key hkey := hread key (mem_precedentsOf.mpr ⟨r, hr, hkey⟩)
  beside c hc key hkey := hbeside key (List.mem_flatMap.mpr ⟨c, hc, hkey⟩)

/-- **A formula whose reading is known** shows the same in matched places that agree on the cells
    that it reads. -/
theorem evaluateFormula_of_tracked (h : ctx.Matched ctx') {e : Expr}
    (ht : e.Tracked ctx.sheets ctx.sheet)
    (hagree : ∀ key ∈ precedentsOf ctx.sheets ctx.sheet e, AgreeAt ctx.sheets ctx'.sheets key) :
    evaluateFormula ctx (some e) = evaluateFormula ctx' (some e) :=
  evaluateFormula_congr h.aligned <| readsAlike_of_steady ht.1 (fun _ _ _ => h.hidesAlike) hagree
    fun key hkey => hagree key (ht.2 key hkey)

end Trees

end Gridcalc
