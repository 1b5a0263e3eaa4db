import Gridcalc.Proofs.Evaluation.Footprint
import Gridcalc.Proofs.Formula.Trees

/-!
# Formulas that their precedents determine

* `DeterminedByPrecedents`: whatever the sheets hold elsewhere, the result of a formula depends only
  on the cells of `precedentsOf`;
* `determinedByPrecedents_of_tracked`: this holds as soon as no stretched rectangle leaves those
  cells;
* `not_determined_of_beside`: a conditional function whose stretched rectangle leaves them is a
  counterexample, since an error in the cell that nobody reported becomes the result;
* `precedents_determine`: both together.
-/

namespace Gridcalc

/-- The result of a formula on sheet `home` depends only on the cells that it is reported to read:
    it is the same at any position and for any two contents of the given frames that agree there. -/
def DeterminedByPrecedents (sheets : List Worksheet) (home : Nat) (e : Expr) : Prop :=
  ∀ ctx ctx' : Context, ctx.Matched ctx' → ctx.sheet = home → SameFrames ctx.sheets sheets →
    (∀ key ∈ precedentsOf sheets home e, AgreeAt ctx.sheets ctx'.sheets key) →
    evaluateFormula ctx (some e) = evaluateFormula ctx' (some e)

theorem determinedByPrecedents_of_tracked {sheets : List Worksheet} {home : Nat} {e : Expr}
    (ht : e.Tracked sheets home) : DeterminedByPrecedents sheets home e := by
  intro ctx ctx' hm e hf hagree
  subst e
  refine evaluateFormula_of_tracked hm ((hf.tracked_iff _ e).mpr ht) fun key hkey => ?_
  exact hagree key (hf.precedentsOf_eq ctx.sheet e ▸ hkey)

/-! ## 1. A conditional call -/

/-- A conditional call over the blank cells of one reference, with another one to stretch. -/
def blankCall (name : String) (tested summed : Reference) : Expr :=
  .call name [tested.toExpr, .text "", summed.toExpr]

section Blank

variable {name : String} {tested summed : Reference} {sheets : List Worksheet} {home : Nat}
  {ctx : Context}

theorem reference?_toExpr (r : Reference) : r.toExpr.reference? = some r := by
  cases r <;> rfl

theorem references_blankCall :
    (blankCall name tested summed).references = [tested, summed] := by
  cases tested <;> cases summed <;> rfl

theorem calls_blankCall :
    (blankCall name tested summed).calls =
      [(name, [tested.toExpr, .text "", summed.toExpr])] := by
  cases tested <;> cases summed <;> rfl

theorem beside_blankCall :
    (blankCall name tested summed).beside sheets home =
      besideOfCall sheets home name [tested.toExpr, .text "", summed.toExpr] := by
  simp [Expr.beside, calls_blankCall]

/-- A cell beside a call lies in the stretched rectangle, and both references in their sheets. -/
theorem mem_beside_blankCall {key : CellKey} :
    key ∈ (blankCall name tested summed).beside sheets home ↔
      isStretchingName name = true ∧ tested.isInside sheets home = true ∧
        summed.isInside sheets home = true ∧
        key ∈ (summed.stretchedTo tested).precedents sheets home := by
  rw [beside_blankCall, besideOfCall]
  simp only [List.getElem?_cons_zero, List.getElem?_cons_succ, Option.bind_some,
    reference?_toExpr, List.length_cons, List.length_nil, Nat.reduceAdd, beq_self_eq_true,
    Bool.and_true]
  by_cases hc : (isStretchingName name && tested.isInside sheets home &&
      summed.isInside sheets home) = true
  · rw [if_pos hc]
    simp only [Bool.and_eq_true] at hc
    simp [hc.1.1, hc.1.2, hc.2]
  · rw [if_neg hc]
    simp only [Bool.and_eq_true] at hc
    simp only [List.not_mem_nil, false_iff]
    exact fun h => hc ⟨⟨h.1, h.2.1⟩, h.2.2.1⟩

/-- A reference that lies in its sheet has a view there. -/
theorem view_of_isInside {r : Reference} (h : r.isInside ctx.sheets ctx.sheet = true) :
    ∃ i ws, sheetOfReference? ctx.sheets ctx.sheet r.sheet = some i ∧
      ctx.sheets[i]? = some ws ∧ ctx.view r.sheet r.area = .ok ⟨ws, r.area⟩ := by
  unfold Reference.isInside at h
  unfold Context.view Context.sheetOf?
  cases hi : sheetOfReference? ctx.sheets ctx.sheet r.sheet with
  | none => simp [hi] at h
  | some i =>
    cases hws : ctx.sheets[i]? with
    | none => simp [hi, hws] at h
    | some ws =>
      simp only [hi, hws, Option.bind_some, Option.any_some] at h
      refine ⟨i, ws, rfl, hws, ?_⟩
      simp only [hws, Option.bind_some, h, if_true]

theorem argOf_toExpr {r : Reference} {view : RangeView} (h : ctx.view r.sheet r.area = .ok view)
    (v : Value) : argOf ctx .range r.toExpr v = .range view := by
  cases r with
  | cell sheet r =>
    simp only [Reference.sheet, Reference.area] at h
    simp only [Reference.toExpr, argOf, rangeArg, h]
  | range sheet r =>
    simp only [Reference.sheet, Reference.area] at h
    simp only [Reference.toExpr, argOf, rangeArg, h]

theorem evaluate_toExpr (ctx : Context) (r : Reference) : ∃ v, evaluate ctx r.toExpr = .ok v := by
  cases r <;> exact ⟨_, rfl⟩

/-- A conditional call runs its function on the views of its references. -/
theorem evaluateFormula_blankCall_run {f : Builtin} (hf : findBuiltin? name = some f)
    (hstretches : f.stretches = true) {vt vs : RangeView}
    (ht : ctx.view tested.sheet tested.area = .ok vt)
    (hs : ctx.view summed.sheet summed.area = .ok vs) :
    evaluateFormula ctx (some (blankCall name tested summed)) =
      ((f.run [.range vt, .value (.text ""), .range vs] ctx).settle).map shownResult := by
  have hkinds : f.accepts 3 = true ∧ f.kindAt 0 = .range ∧ f.kindAt 1 = .scalar ∧
      f.kindAt 2 = .range := by
    rcases Builtin.eq_of_stretches (mem_builtins_of_find hf) hstretches with rfl | rfl <;>
      exact ⟨rfl, rfl, rfl, rfl⟩
  obtain ⟨hacc, hk0, hk1, hk2⟩ := hkinds
  obtain ⟨v, hv⟩ := evaluate_toExpr (ctx.branch 0) tested
  obtain ⟨v', hv'⟩ := evaluate_toExpr (ctx.branch 2) summed
  have hargs : evaluateArgs ctx f 0 [tested.toExpr, .text "", summed.toExpr] =
      .ok [.range vt, .value (.text ""), .range vs] := by
    simp only [evaluateArgs, hv, hv', evaluate, bind, Except.bind, pure, Except.pure,
      Nat.zero_add, Nat.reduceAdd, hk0, hk1, hk2, argOf_toExpr ht, argOf_toExpr hs]
    rfl
  have hlen : [tested.toExpr, .text "", summed.toExpr].length = 3 := rfl
  simp only [blankCall, evaluateFormula, evaluate, hf, hlen, hacc, if_true, hargs]
  rfl

/-- What a conditional call comes to is made of the numbers beside the blank cells: without any it
    is no missing value, and a missing value among them is the result. -/
theorem evaluateFormula_blankCall (hname : isStretchingName name = true) {vt vs : RangeView}
    (ht : ctx.view tested.sheet tested.area = .ok vt)
    (hs : ctx.view summed.sheet summed.area = .ok vs) :
    (Builtin.numbersBeside vt vs (.blank false) = .ok [] →
      evaluateFormula ctx (some (blankCall name tested summed)) ≠
        .ok (.error .notAvailable)) ∧
    (Builtin.numbersBeside vt vs (.blank false) = .error (.error .notAvailable) →
      evaluateFormula ctx (some (blankCall name tested summed)) =
        .ok (.error .notAvailable)) := by
  have hnumbers : Builtin.conditionalNumbers [.range vt, .value (.text ""), .range vs] =
      Builtin.numbersBeside vt vs (.blank false) := rfl
  unfold isStretchingName at hname
  cases hf : findBuiltin? name with
  | none => simp [hf] at hname
  | some f =>
    rw [hf] at hname
    rw [evaluateFormula_blankCall_run hf hname ht hs]
    rcases Builtin.eq_of_stretches (mem_builtins_of_find hf) hname with rfl | rfl
    · constructor
      · intro h
        simp only [Builtin.sumIf, hnumbers, h, bind, Except.bind, Builtin.numberResult,
          Outcome.settle, Except.map, shownResult]
        simp
      · intro h
        simp only [Builtin.sumIf, hnumbers, h, bind, Except.bind, Outcome.settle, Except.map,
          shownResult]
    · constructor
      · intro h
        simp only [Builtin.averageIf, hnumbers, h, bind, Except.bind]
        simp [average?, Outcome.orRefuse, Outcome.refuse, Outcome.settle, Except.map, shownResult]
      · intro h
        simp only [Builtin.averageIf, hnumbers, h, bind, Except.bind, Outcome.settle, Except.map,
          shownResult]

end Blank

/-! ## 2. Numbers beside a condition -/

namespace Builtin

variable {tested summed : RangeView} {criterion : Criterion}

/-- A sheet without values has no numbers beside anything. -/
theorem numbersBeside_of_no_value (h : ∀ row col, summed.sheet.value? row col = none) :
    numbersBeside tested summed criterion = .ok [] := by
  unfold numbersBeside
  simp only [h, ite_self]
  have hnil : (tested.range.rows.flatMap fun _ => tested.range.cols.filterMap fun _ =>
      (none : Option Value)) = [] := by
    simp
  rw [hnil]
  rfl

/-- An error that is the only value of a sheet is found, if it stands beside a cell that satisfies
    the condition. -/
theorem numbersBeside_of_error {e : ErrorValue} {row col : Nat}
    (honly : ∀ row col v, summed.sheet.value? row col = some v → v = .error e)
    (hrow : row ∈ tested.range.rows) (hcol : col ∈ tested.range.cols)
    (hadmits : criterion.admits
      (tested.value (row - tested.range.firstRow) (col - tested.range.firstCol)) = true)
    (hv : summed.sheet.value? (summed.range.firstRow + (row - tested.range.firstRow))
      (summed.range.firstCol + (col - tested.range.firstCol)) = some (.error e)) :
    numbersBeside tested summed criterion = .error (.error e) := by
  unfold numbersBeside
  extract_lets beside
  have hall : ∀ v ∈ beside, v = .error e := by
    intro v hmem
    obtain ⟨r, -, hmem⟩ := List.mem_flatMap.mp hmem
    obtain ⟨c, -, hc⟩ := List.mem_filterMap.mp hmem
    dsimp only at hc
    split at hc
    · exact honly _ _ v hc
    · cases hc
  have hmem : Value.error e ∈ beside := by
    refine List.mem_flatMap.mpr ⟨row, hrow, List.mem_filterMap.mpr ⟨col, hcol, ?_⟩⟩
    simp only [hadmits, if_true]
    exact hv
  have hfirst : firstError? beside = some e := by
    cases hb : beside with
    | nil =>
      rw [hb] at hmem
      cases hmem
    | cons v vs =>
      rw [hall v (by rw [hb]; exact List.mem_cons_self)]
      rfl
  simp only [numbersOfCells, hfirst]
  rfl

end Builtin

/-! ## 3. A cell that nobody reported -/

/-- Sheets with the frames of others and a single cell. -/
def onlyCell (sheets : List Worksheet) (key : CellKey) (v : Value) : List Worksheet :=
  sheets.mapIdx fun i ws =>
    if i = key.sheet then
      { ws.frame with store := ws.frame.store.put key.row key.col (.ofValue v) }
    else ws.frame

section OnlyCell

variable {sheets : List Worksheet} {key : CellKey} {v : Value}

theorem sameFrames_onlyCell : SameFrames (onlyCell sheets key v) sheets := by
  refine sameFrames_iff.mpr fun i => ?_
  simp only [onlyCell, List.getElem?_mapIdx, Option.map_map]
  refine congrArg (Option.map · _) (funext fun ws => ?_)
  simp only [Function.comp_apply]
  split <;> rfl

/-- What is stored in a sheet with a single cell. -/
theorem get?_onlyCell {i : Nat} {ws : Worksheet} (hws : (onlyCell sheets key v)[i]? = some ws)
    (row col : Nat) :
    ws.get? row col = if i = key.sheet ∧ key.row = row ∧ key.col = col then some (.ofValue v)
      else none := by
  have hempty : ∀ ws : Worksheet, ∀ r c, ws.frame.store.get? r c = none := by
    intro ws r c
    simp [Worksheet.frame, CellStore.get?]
  simp only [onlyCell, List.getElem?_mapIdx] at hws
  obtain ⟨ws₀, -, rfl⟩ := Option.map_eq_some_iff.mp hws
  by_cases hi : i = key.sheet
  · simp only [hi, if_true, true_and, Worksheet.get?, CellStore.get?_put, hempty]
  · simp only [hi, if_false, false_and, Worksheet.get?, hempty]

theorem bounded_onlyCell (hkey : ∀ ws, sheets[key.sheet]? = some ws →
    ws.inBounds key.row key.col = true) : ∀ ws ∈ onlyCell sheets key v, ws.Bounded := by
  intro ws hws row col cell hc
  obtain ⟨i, hi⟩ := List.mem_iff_getElem?.mp hws
  rw [get?_onlyCell hi] at hc
  split at hc
  · rename_i h
    obtain ⟨rfl, rfl, rfl⟩ := h
    obtain ⟨ws', hws', hf⟩ := (@sameFrames_onlyCell sheets key v).getElem? hi
    rw [inBounds_of_frame hf]
    exact hkey ws' hws'
  · cases hc

end OnlyCell

/-- Every cell of a stretched rectangle stands beside a tested one. -/
theorem exists_beside {tested summed : RangeRef} {row col : Nat}
    (h : (Builtin.besideRange tested summed).contains row col = true) :
    ∃ row' ∈ tested.rows, ∃ col' ∈ tested.cols,
      summed.firstRow + (row' - tested.firstRow) = row ∧
      summed.firstCol + (col' - tested.firstCol) = col := by
  obtain ⟨⟨hrow, hrow'⟩, hcol, hcol'⟩ := Builtin.contains_besideRange_iff.mp h
  have hsides := tested.first_le_last
  refine ⟨tested.firstRow + (row - summed.firstRow), ?_,
    tested.firstCol + (col - summed.firstCol), ?_, ?_, ?_⟩
  · rw [RangeRef.mem_rows]
    omega
  · rw [RangeRef.mem_cols]
    omega
  · omega
  · omega

/-- A place at the top left corner of a sheet. -/
def cornerOf (sheets : List Worksheet) (home : Nat) : Context :=
  { sheets, sheet := home, row := 0, col := 0, ambient := ⟨default, fun _ => 0⟩ }

section Corners

variable {sheets : List Worksheet} {home : Nat} {key : CellKey} {v : Value}

theorem get?_map_frame {i : Nat} {ws : Worksheet}
    (hws : (sheets.map Worksheet.frame)[i]? = some ws) (row col : Nat) :
    ws.get? row col = none := by
  rw [List.getElem?_map] at hws
  obtain ⟨ws', -, rfl⟩ := Option.map_eq_some_iff.mp hws
  simp [Worksheet.get?, Worksheet.frame, CellStore.get?]

theorem sameFrames_map_frame : SameFrames (sheets.map Worksheet.frame) sheets := by
  refine sameFrames_iff.mpr fun i => ?_
  rw [List.getElem?_map, Option.map_map]
  rfl

theorem sameFrames_bare_one :
    SameFrames (sheets.map Worksheet.frame) (onlyCell sheets key v) :=
  Eq.trans sameFrames_map_frame sameFrames_onlyCell.symm

/-- Sheets without cells match those with a single cell, provided that it lies in its sheet. -/
theorem matched_bare_one
    (hkey : ∀ ws, sheets[key.sheet]? = some ws → ws.inBounds key.row key.col = true) :
    (cornerOf (sheets.map Worksheet.frame) home).Matched
      (cornerOf (onlyCell sheets key v) home) where
  sheet := rfl
  row := rfl
  col := rfl
  frames := sameFrames_bare_one
  bounded := by
    intro ws hws row col cell hc
    obtain ⟨i, hi⟩ := List.mem_iff_getElem?.mp hws
    rw [get?_map_frame hi] at hc
    cases hc
  bounded' := bounded_onlyCell hkey

/-- They agree on every other cell. -/
theorem agreeAt_bare_one {k : CellKey} (hne : k ≠ key) :
    AgreeAt (sheets.map Worksheet.frame) (onlyCell sheets key v) k := by
  refine agreeAt_of_cellIn ?_
  unfold cellIn
  cases hws : (onlyCell sheets key v)[k.sheet]? with
  | none =>
    have hlen := (@sameFrames_bare_one sheets key v).length_eq
    have hnone : (sheets.map Worksheet.frame)[k.sheet]? = none := by
      rw [List.getElem?_eq_none_iff] at hws ⊢
      omega
    rw [hnone]
  | some ws =>
    obtain ⟨ws', hws', -⟩ := sameFrames_bare_one.symm.getElem? hws
    have hother : ¬(k.sheet = key.sheet ∧ key.row = k.row ∧ key.col = k.col) := by
      intro ⟨hs, hr, hc⟩
      refine hne ?_
      cases k
      cases key
      simp_all
    rw [hws', Option.bind_some, Option.bind_some, get?_map_frame hws', get?_onlyCell hws,
      if_neg hother]

theorem SameFrames.isInside_eq {sheets' : List Worksheet} (h : SameFrames sheets sheets')
    (r : Reference) : r.isInside sheets home = r.isInside sheets' home := by
  rw [← Reference.isInside_map_frame, h, Reference.isInside_map_frame]

variable {name : String} {tested summed : Reference}

/-- Over sheets without cells a conditional call gives no missing value. -/
theorem blankCall_bare (hkey : key ∈ (blankCall name tested summed).beside sheets home) :
    evaluateFormula (cornerOf (sheets.map Worksheet.frame) home)
      (some (blankCall name tested summed)) ≠ .ok (.error .notAvailable) := by
  obtain ⟨hname, htested, hsummed, -⟩ := mem_beside_blankCall.mp hkey
  rw [← sameFrames_map_frame.isInside_eq] at htested hsummed
  obtain ⟨-, wt, -, -, hvt⟩ :=
    @view_of_isInside (cornerOf (sheets.map Worksheet.frame) home) _ htested
  obtain ⟨i, ws, -, hws, hvs⟩ :=
    @view_of_isInside (cornerOf (sheets.map Worksheet.frame) home) _ hsummed
  refine (evaluateFormula_blankCall hname hvt hvs).1 (Builtin.numbersBeside_of_no_value ?_)
  intro row col
  rw [Worksheet.value?, get?_map_frame hws]
  rfl

/-- The cells of a reference are blank if none of them is the single cell. -/
theorem valueAt_onlyCell {r : Reference} {i row col : Nat} {ws : Worksheet}
    (hi : sheetOfReference? (onlyCell sheets key v) home r.sheet = some i)
    (hws : (onlyCell sheets key v)[i]? = some ws) (hin : r.area.contains row col = true)
    (hb : ∃ ws, sheets[key.sheet]? = some ws ∧ ws.inBounds key.row key.col = true)
    (hnot : key ∉ r.precedents sheets home) : ws.valueAt row col = .empty := by
  rw [Worksheet.valueAt, Worksheet.value?, get?_onlyCell hws]
  split
  · rename_i h
    obtain ⟨rfl, rfl, rfl⟩ := h
    obtain ⟨ws₀, hws₀, hb⟩ := hb
    have hi' := (sameFrames_onlyCell.sheetOfReference?_eq home r.sheet).symm.trans hi
    exact absurd (Reference.mem_precedents.mpr ⟨hi', ws₀, hws₀, hin, hb⟩) hnot
  · rfl

/-- Over a single missing value in a cell of the stretched rectangle it gives that one, unless the
    cell is tested itself. -/
theorem blankCall_one (hkey : key ∈ (blankCall name tested summed).beside sheets home)
    (hnot : key ∉ tested.precedents sheets home) :
    evaluateFormula (cornerOf (onlyCell sheets key (.error .notAvailable)) home)
      (some (blankCall name tested summed)) = .ok (.error .notAvailable) := by
  obtain ⟨hname, htested, hsummed, hmem⟩ := mem_beside_blankCall.mp hkey
  have hf := @sameFrames_onlyCell sheets key (.error .notAvailable)
  rw [← hf.isInside_eq] at htested hsummed
  obtain ⟨jt, wt, hjt, hwt, hvt⟩ :=
    @view_of_isInside (cornerOf (onlyCell sheets key (.error .notAvailable)) home) _ htested
  obtain ⟨js, ws, hjs, hws, hvs⟩ :=
    @view_of_isInside (cornerOf (onlyCell sheets key (.error .notAvailable)) home) _ hsummed
  obtain ⟨hi, ws₀, hws₀, hin, hb⟩ := Reference.mem_precedents.mp hmem
  obtain ⟨row, hrow, col, hcol, hrowBeside, hcolBeside⟩ := exists_beside hin
  obtain rfl : js = key.sheet := by
    have hjs' : sheetOfReference? sheets home summed.sheet = some js :=
      (hf.sheetOfReference?_eq home summed.sheet).symm.trans hjs
    exact Option.some.inj (hjs'.symm.trans hi)
  refine (evaluateFormula_blankCall hname hvt hvs).2 ?_
  refine Builtin.numbersBeside_of_error ?_ hrow hcol ?_ ?_
  · intro r c v hv
    rw [Worksheet.value?, get?_onlyCell hws] at hv
    split at hv
    · exact (Option.some.inj hv).symm
    · cases hv
  · have hempty : (RangeView.mk wt tested.area).value (row - tested.area.firstRow)
        (col - tested.area.firstCol) = .empty := by
      unfold RangeView.value
      split
      · rfl
      · refine valueAt_onlyCell hjt hwt ?_ ⟨ws₀, hws₀, hb⟩ hnot
        rw [RangeRef.mem_rows] at hrow
        rw [RangeRef.mem_cols] at hcol
        rw [RangeRef.contains_iff]
        dsimp only
        omega
    rw [hempty]
    rfl
  · dsimp only
    rw [hrowBeside, hcolBeside, Worksheet.value?, get?_onlyCell hws, if_pos ⟨rfl, rfl, rfl⟩]
    rfl

end Corners

/-- **A cell of a stretched rectangle that was not reported** can change the result: a missing value
    in it becomes the result of the call over blank cells. -/
theorem not_determined_of_beside {name : String} {tested summed : Reference}
    {sheets : List Worksheet} {home : Nat} {key : CellKey}
    (hkey : key ∈ (blankCall name tested summed).beside sheets home)
    (hnot : key ∉ precedentsOf sheets home (blankCall name tested summed)) :
    ¬DeterminedByPrecedents sheets home (blankCall name tested summed) := by
  intro hdet
  obtain ⟨-, -, -, hmem⟩ := mem_beside_blankCall.mp hkey
  obtain ⟨-, ws, hws, -, hb⟩ := Reference.mem_precedents.mp hmem
  have hbounds : ∀ ws, sheets[key.sheet]? = some ws → ws.inBounds key.row key.col = true := by
    intro ws' hws'
    rwa [← Option.some.inj (hws.symm.trans hws')]
  have htested : key ∉ tested.precedents sheets home := by
    intro h
    refine hnot (mem_precedentsOf.mpr ⟨tested, ?_, h⟩)
    rw [references_blankCall]
    exact List.mem_cons_self
  have hmatched := @matched_bare_one sheets home key (.error .notAvailable) hbounds
  have heq := hdet _ _ hmatched rfl sameFrames_map_frame fun k hk =>
    agreeAt_bare_one fun e => hnot (e ▸ hk)
  exact blankCall_bare hkey (heq.trans (blankCall_one hkey htested))

/-! ## 4. The exact condition -/

theorem isVolatile_blankCall {name : String} {tested summed : Reference}
    (hname : isStretchingName name = true) :
    (blankCall name tested summed).isVolatile = false := by
  have hnames : (blankCall name tested summed).functionNames = [name] := by
    cases tested <;> cases summed <;> rfl
  unfold isStretchingName at hname
  cases hf : findBuiltin? name with
  | none => simp [Expr.isVolatile, hnames, isVolatileName, hf]
  | some f =>
    rw [hf] at hname
    rcases Builtin.eq_of_stretches (mem_builtins_of_find hf) hname with rfl | rfl
    · simp [Expr.isVolatile, hnames, isVolatileName, hf]
    · simp [Expr.isVolatile, hnames, isVolatileName, hf]

/-- **The reported cells determine the result** of every formula that is not evaluated anew each
    time and whose stretched rectangles stay among them. For a conditional call over blank cells
    this condition is exact: as soon as its stretched rectangle leaves the reported cells, two
    contents of the sheets that agree on these give different results. -/
theorem precedents_determine (sheets : List Worksheet) (home : Nat) :
    (∀ e : Expr, e.isVolatile = false →
      (∀ key ∈ e.beside sheets home, key ∈ precedentsOf sheets home e) →
      DeterminedByPrecedents sheets home e) ∧
    ∀ name tested summed, isStretchingName name = true →
      (DeterminedByPrecedents sheets home (blankCall name tested summed) ↔
        ∀ key ∈ (blankCall name tested summed).beside sheets home,
          key ∈ precedentsOf sheets home (blankCall name tested summed)) := by
  refine ⟨fun e hv hbeside => determinedByPrecedents_of_tracked ⟨hv, hbeside⟩, ?_⟩
  intro name tested summed hname
  constructor
  · intro hdet key hkey
    by_contra hnot
    exact not_determined_of_beside hkey hnot hdet
  · intro hbeside
    exact determinedByPrecedents_of_tracked ⟨isVolatile_blankCall hname, hbeside⟩

/-- The sum of two cells is determined by them; a sum over one cell with a condition on two is not
    determined by the three cells it mentions. -/
theorem precedents_determine_sum_not_sumif :
    DeterminedByPrecedents [Worksheet.create "Sheet1" 2 2] 0
      (.call "SUM" [.range none (.between 0 0 1 0)]) ∧
    ¬DeterminedByPrecedents [Worksheet.create "Sheet1" 2 2] 0
      (blankCall "SUMIF" (.range none (.between 0 0 1 0)) (.cell none (.ofIndices 0 1))) := by
  constructor
  · refine (precedents_determine [Worksheet.create "Sheet1" 2 2] 0).1 _ (by decide) ?_
    decide
  · rw [(precedents_determine [Worksheet.create "Sheet1" 2 2] 0).2 "SUMIF" _ _ (by decide)]
    decide

end Gridcalc
