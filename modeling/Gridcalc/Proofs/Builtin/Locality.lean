import Gridcalc.Proofs.Builtin.Alike

/-!
# What the functions look at

Every function that is not evaluated anew each time falls into one of four groups:

* functions of single values, which do not even look at the place of the formula
  (`Builtin.OnlyScalars`);
* functions that give alike arguments the same result, whichever rows are hidden
  (`Builtin.Local`);
* the two summaries, `Builtin.summarises`, which may leave out hidden rows and give alike arguments
  the same result as long as the same rows are hidden (`Builtin.LocalWhenShown`);
* the two conditional functions, `Builtin.stretches`: with a third argument they look at a rectangle
  that starts at its corner and has the shape of the first one (`conditionalNumbers_congr`).

`Builtin.reach_of_mem` says which of them each function of the table is in.
-/

namespace Gridcalc

/-! ## 1. The groups -/

namespace Builtin

/-- A function of single values that does not look at the place of the formula. -/
def OnlyScalars (f : Builtin) : Prop :=
  f.kinds = [.scalar] ∧ ∀ args ctx ctx', f.run args ctx = f.run args ctx'

/-- A function that looks at its arguments and at the position of the formula only, and not at
    hidden rows. -/
def Local (run : List Arg → Context → Outcome Value) : Prop :=
  ∀ {shown args args' ctx ctx'}, ArgsAlike shown args args' → ctx.row = ctx'.row →
    ctx.col = ctx'.col → run args ctx = run args' ctx'

/-- A function that looks at its arguments and at hidden rows only. -/
def LocalWhenShown (run : List Arg → Context → Outcome Value) : Prop :=
  ∀ shown args args' ctx ctx', shown → ArgsAlike shown args args' → run args ctx = run args' ctx'

/-- Whether the function may leave out hidden rows. -/
def summarises (f : Builtin) : Bool := f.name == "SUBTOTAL" || f.name == "AGGREGATE"

/-- Whether the function stretches its third argument to the shape of the first one. -/
def stretches (f : Builtin) : Bool := f.name == "SUMIF" || f.name == "AVERAGEIF"

/-! ## 2. Cells beside a condition -/

/-- Values that nobody counts make no difference. -/
theorem numbersOfCells_filter (vs : List Value) :
    numbersOfCells (vs.filter fun v => !v.isEmpty) = numbersOfCells vs := by
  have hkept : ∀ {β : Type} (f : Value → Option β), f .empty = none →
      (vs.filter fun v => !v.isEmpty).filterMap f = vs.filterMap f := by
    intro β f hf
    rw [List.filterMap_filter]
    refine congrArg (List.filterMap · vs) (funext fun v => ?_)
    cases v <;> simp [Value.isEmpty, hf]
  have herror : firstError? (vs.filter fun v => !v.isEmpty) = firstError? vs := by
    unfold firstError?
    rw [← List.head?_filterMap, hkept _ rfl, List.head?_filterMap]
  simp only [numbersOfCells, herror, hkept Value.number? rfl]

/-- A missing cell and one without a value are the same to whoever leaves both out. -/
theorem filter_value?_congr {ws ws' : Worksheet} {row col : Nat}
    (h : ws.valueAt row col = ws'.valueAt row col) :
    (ws.value? row col).filter (fun v => !v.isEmpty) =
      (ws'.value? row col).filter fun v => !v.isEmpty := by
  have hvalue : ∀ ws : Worksheet, (ws.value? row col).filter (fun v => !v.isEmpty) =
      (some (ws.valueAt row col)).filter fun v => !v.isEmpty := by
    intro ws
    unfold Worksheet.valueAt
    cases ws.value? row col <;> rfl
  rw [hvalue, hvalue, h]

/-- The summed cells beside a tested rectangle: a rectangle of its shape from the corner of the
    summed one. -/
def besideRange (tested summed : RangeRef) : RangeRef :=
  .between summed.firstRow summed.firstCol (summed.firstRow + (tested.lastRow - tested.firstRow))
    (summed.firstCol + (tested.lastCol - tested.firstCol))

/-- The extent of the rectangle beside a tested one. -/
theorem contains_besideRange_iff {tested summed : RangeRef} {row col : Nat} :
    (besideRange tested summed).contains row col = true ↔
      (summed.firstRow ≤ row ∧ row - summed.firstRow ≤ tested.lastRow - tested.firstRow) ∧
        summed.firstCol ≤ col ∧ col - summed.firstCol ≤ tested.lastCol - tested.firstCol := by
  rw [besideRange, RangeRef.contains_between (Nat.le_add_right _ _) (Nat.le_add_right _ _)]
  omega

theorem contains_besideRange {tested summed : RangeRef} {row col : Nat}
    (hrow : row ∈ tested.rows) (hcol : col ∈ tested.cols) :
    (besideRange tested summed).contains (summed.firstRow + (row - tested.firstRow))
      (summed.firstCol + (col - tested.firstCol)) = true := by
  rw [RangeRef.mem_rows] at hrow
  rw [RangeRef.mem_cols] at hcol
  rw [contains_besideRange_iff]
  omega

/-- **The numbers beside a condition** depend on the tested rectangle and on the rectangle beside it
    only. -/
theorem numbersBeside_congr {shown : Prop} {tested tested' summed summed' : RangeView}
    (criterion : Criterion) (ht : tested.Alike shown tested')
    (hrange : summed.range = summed'.range)
    (hbeside : ∀ row col, (besideRange tested.range summed.range).contains row col = true →
      summed.sheet.valueAt row col = summed'.sheet.valueAt row col) :
    numbersBeside tested summed criterion = numbersBeside tested' summed' criterion := by
  unfold numbersBeside
  rw [← ht.range]
  dsimp only
  rw [← numbersOfCells_filter, List.filter_flatMap]
  conv_rhs => rw [← numbersOfCells_filter, List.filter_flatMap]
  refine congrArg numbersOfCells (List.flatMap_congr fun row hrow => ?_)
  rw [List.filter_filterMap, List.filter_filterMap]
  refine List.filterMap_congr fun col hcol => ?_
  rw [ht.value_eq]
  split
  · have hv := hbeside _ _ (contains_besideRange hrow hcol)
    simp only [RangeView.absolute, CellRef.ofIndices, ← hrange]
    exact filter_value?_congr hv
  · rfl

/-- The numbers of a conditional function, provided that what a third rectangle is stretched to
    holds the same. -/
theorem conditionalNumbers_congr {shown : Prop} {args args' : List Arg}
    (h : ArgsAlike shown args args')
    (hbeside : ∀ tested summed summed', args[0]? = some (.range tested) →
      args[2]? = some (.range summed) → args'[2]? = some (.range summed') →
      ∀ row col, (besideRange tested.range summed.range).contains row col = true →
        summed.sheet.valueAt row col = summed'.sheet.valueAt row col) :
    conditionalNumbers args = conditionalNumbers args' := by
  unfold conditionalNumbers
  refine (rangeAt_rel h 0).bind_eq fun tested tested' htested => ?_
  obtain ⟨hal, ht, -⟩ := htested
  dsimp only
  rw [scalarAt_congr h, h.length_eq]
  by_cases hlen : args'.length ≤ 2
  · -- without a third argument the tested rectangle is summed itself
    simp only [hlen, if_true, pure_bind]
    refine numbersBeside_congr _ hal hal.range fun row col hin => hal.value row col ?_
    have hsides := tested.range.first_le_last
    rw [contains_besideRange_iff] at hin
    rw [RangeRef.contains_iff]
    omega
  · simp only [hlen, if_false]
    refine (rangeAt_rel h 2).bind_eq fun summed summed' hsummed => ?_
    obtain ⟨hals, hs, hs'⟩ := hsummed
    exact numbersBeside_congr _ hal hals.range (hbeside _ _ _ ht hs hs')

/-! ## 3. Functions of rectangles -/

theorem local_sum : Local sum := by
  intro shown args args' ctx ctx' h _ _
  simp only [sum, numbersOf_congr h]

theorem local_productOfAll : Local productOfAll := by
  intro shown args args' ctx ctx' h _ _
  simp only [productOfAll, numbersOf_congr h]

theorem local_average : Local average := by
  intro shown args args' ctx ctx' h _ _
  simp only [average, numbersOf_congr h]

theorem local_minimum : Local minimum := by
  intro shown args args' ctx ctx' h _ _
  simp only [minimum, numbersOf_congr h]

theorem local_maximum : Local maximum := by
  intro shown args args' ctx ctx' h _ _
  simp only [maximum, numbersOf_congr h]

theorem local_median : Local median := by
  intro shown args args' ctx ctx' h _ _
  simp only [median, numbersOf_congr h]

theorem local_large : Local large := by
  intro shown args args' ctx ctx' h _ _
  simp only [large, numbersOf_congr (List.forall₂_take 1 h), numberAt_congr h]

theorem local_small : Local small := by
  intro shown args args' ctx ctx' h _ _
  simp only [small, numbersOf_congr (List.forall₂_take 1 h), numberAt_congr h]

theorem local_count : Local count := by
  intro shown args args' ctx ctx' h _ _
  simp only [count, h.map_eq fun _ _ => numericCount_congr]

theorem local_countAll : Local countAll := by
  intro shown args args' ctx ctx' h _ _
  have hcount := h.map_eq (f := fun arg => arg.values.countP fun v => !v.isEmpty)
    fun _ _ ha => by rw [ha.values_eq]
  simp only [countAll, hcount]

theorem local_countBlank : Local countBlank := by
  intro shown args args' ctx ctx' h _ _
  refine (rangeAt_rel h 0).bind_eq fun view view' ⟨hv, _, _⟩ => ?_
  rw [hv.values_eq]

theorem local_countIf : Local countIf := by
  intro shown args args' ctx ctx' h _ _
  refine (rangeAt_rel h 0).bind_eq fun view view' ⟨hv, _, _⟩ => ?_
  rw [hv.values_eq, scalarAt_congr h]

theorem localWhenShown_subtotal : LocalWhenShown subtotal := by
  intro shown args args' ctx ctx' hs h
  have hrefs : ArgsAlike shown (args.drop 1) (args'.drop 1) := List.forall₂_drop 1 h
  have hmap := hrefs.map_eq fun _ _ => Arg.Alike.isRange_eq
  have hall : (args.drop 1).all isRange = (args'.drop 1).all isRange := by
    have e := congrArg (·.all id) hmap
    simpa only [List.all_map, Function.id_comp] using e
  simp only [subtotal, numberAt_congr h, hall, gather_congr _ hs hrefs, errorAmong_congr hrefs]

theorem localWhenShown_aggregate : LocalWhenShown aggregate := by
  intro shown args args' ctx ctx' hs h
  have hrefs : ArgsAlike shown (args.drop 2) (args'.drop 2) := List.forall₂_drop 2 h
  simp only [aggregate, numberAt_congr h, gather_congr _ hs hrefs,
    gather_congr _ hs (List.forall₂_take 1 hrefs), h.length_eq]

theorem local_conjunction : Local conjunction := by
  intro shown args args' ctx ctx' h _ _
  simp only [conjunction, truthsOf_congr h]

theorem local_disjunction : Local disjunction := by
  intro shown args args' ctx ctx' h _ _
  simp only [disjunction, truthsOf_congr h]

theorem local_tableLookup (horizontal : Bool) : Local (tableLookup horizontal) := by
  intro shown args args' ctx ctx' h _ _
  unfold tableLookup
  rw [soughtAt_congr h]
  refine congrArg _ (funext fun sought => ?_)
  refine (rangeAt_rel h 1).bind_eq fun table table' ⟨hv, _, _⟩ => ?_
  simp only [numberAt_congr h, booleanAtOr_congr h, hv.rowCount_eq, hv.colCount_eq,
    hv.rowValues_eq, hv.colValues_eq, hv.value_eq]

theorem local_matchPlace : Local matchPlace := by
  intro shown args args' ctx ctx' h _ _
  unfold matchPlace
  rw [soughtAt_congr h]
  refine congrArg _ (funext fun sought => ?_)
  refine (rangeAt_rel h 1).bind_eq fun view view' ⟨hv, _, _⟩ => ?_
  simp only [numberAtOr_congr h, hv.line?_eq]

theorem local_parallelLookup : Local parallelLookup := by
  intro shown args args' ctx ctx' h _ _
  unfold parallelLookup
  rw [soughtAt_congr h]
  refine congrArg _ (funext fun sought => ?_)
  refine (rangeAt_rel h 1).bind_eq fun searched searched' ⟨hs, _, _⟩ => ?_
  refine (rangeAt_rel h 2).bind_eq fun returned returned' ⟨hr, _, _⟩ => ?_
  simp only [numberAtOr_congr h, scalarAt_congr h, h.length_eq, hs.line?_eq, hs.rowCount_eq,
    hs.colCount_eq, hr.rowCount_eq, hr.colCount_eq, hr.value_eq]

theorem local_index : Local index := by
  intro shown args args' ctx ctx' h _ _
  refine (rangeAt_rel h 0).bind_eq fun view view' ⟨hv, _, _⟩ => ?_
  simp only [numberAtOr_congr h, h.length_eq, hv.rowCount_eq, hv.colCount_eq, hv.value_eq]

theorem isEmpty_congr {shown : Prop} {args args' : List Arg} (h : ArgsAlike shown args args') :
    args.isEmpty = args'.isEmpty := by
  cases h <;> rfl

theorem local_rowNumber : Local rowNumber := by
  intro shown args args' ctx ctx' h hrow _
  unfold rowNumber
  rw [isEmpty_congr h, hrow]
  split
  · rfl
  · refine (rangeAt_rel h 0).bind_eq fun view view' ⟨hv, _, _⟩ => ?_
    rw [hv.range]

theorem local_columnNumber : Local columnNumber := by
  intro shown args args' ctx ctx' h _ hcol
  unfold columnNumber
  rw [isEmpty_congr h, hcol]
  split
  · rfl
  · refine (rangeAt_rel h 0).bind_eq fun view view' ⟨hv, _, _⟩ => ?_
    rw [hv.range]

theorem local_rowsOf : Local rowsOf := by
  intro shown args args' ctx ctx' h _ _
  refine (rangeAt_rel h 0).bind_eq fun view view' ⟨hv, _, _⟩ => ?_
  rw [hv.rowCount_eq]

theorem local_columnsOf : Local columnsOf := by
  intro shown args args' ctx ctx' h _ _
  refine (rangeAt_rel h 0).bind_eq fun view view' ⟨hv, _, _⟩ => ?_
  rw [hv.colCount_eq]

theorem flatMap_values_congr {shown : Prop} {args args' : List Arg}
    (h : ArgsAlike shown args args') :
    args.flatMap Arg.values = args'.flatMap Arg.values := by
  simp only [List.flatMap_def, h.map_eq fun _ _ => Arg.Alike.values_eq]

theorem local_joinTexts : Local joinTexts := by
  intro shown args args' ctx ctx' h _ _
  simp only [joinTexts, textAt_congr h, booleanAtOr_congr h,
    flatMap_values_congr (List.forall₂_drop 2 h)]

theorem local_concatAll : Local concatAll := by
  intro shown args args' ctx ctx' h _ _
  simp only [concatAll, flatMap_values_congr h]

/-! ## 4. The table -/

/-- What is known of where a function looks. -/
inductive Reach (f : Builtin) : Prop
  | anew (h : f.isVolatile = true)
  | scalars (h : f.OnlyScalars)
  | arguments (h : Local f.run)
  | summary (h : f.summarises = true) (hlocal : LocalWhenShown f.run)
  | stretched (h : f.stretches = true)

theorem reach_scalar {name : String} {least : Nat} {most : Option Nat}
    {run : List Arg → Context → Outcome Value}
    (h : ∀ args ctx ctx', run args ctx = run args ctx') :
    Reach (scalarBuiltin name least most run) :=
  .scalars ⟨rfl, h⟩

theorem reach_arithmetic : ∀ f ∈ arithmeticBuiltins, Reach f := by
  simp only [arithmeticBuiltins, List.forall_mem_cons, List.not_mem_nil, false_implies,
    implies_true, and_true]
  refine ⟨.arguments local_sum, .arguments local_productOfAll, ?_⟩
  refine ⟨reach_scalar fun _ _ _ => rfl, reach_scalar fun _ _ _ => rfl,
    reach_scalar fun _ _ _ => rfl, reach_scalar fun _ _ _ => rfl, reach_scalar fun _ _ _ => rfl,
    reach_scalar fun _ _ _ => rfl, reach_scalar fun _ _ _ => rfl, ?_⟩
  exact ⟨.stretched rfl, .anew rfl, .anew rfl⟩

theorem reach_summary : ∀ f ∈ summaryBuiltins, Reach f := by
  simp only [summaryBuiltins, List.forall_mem_cons, List.not_mem_nil, false_implies,
    implies_true, and_true]
  exact ⟨.arguments local_average, .arguments local_minimum, .arguments local_maximum,
    .arguments local_count, .arguments local_countAll, .arguments local_countBlank,
    .arguments local_median, .arguments local_large, .arguments local_small,
    .arguments local_countIf, .stretched rfl, .summary rfl localWhenShown_subtotal,
    .summary rfl localWhenShown_aggregate⟩

theorem reach_logic : ∀ f ∈ logicBuiltins, Reach f := by
  simp only [logicBuiltins, List.forall_mem_cons, List.not_mem_nil, false_implies,
    implies_true, and_true]
  refine ⟨reach_scalar fun _ _ _ => rfl, reach_scalar fun _ _ _ => rfl,
    .arguments local_conjunction, .arguments local_disjunction, ?_⟩
  exact ⟨reach_scalar fun _ _ _ => rfl, reach_scalar fun _ _ _ => rfl,
    reach_scalar fun _ _ _ => rfl, reach_scalar fun _ _ _ => rfl, reach_scalar fun _ _ _ => rfl,
    reach_scalar fun _ _ _ => rfl, reach_scalar fun _ _ _ => rfl⟩

theorem reach_lookup : ∀ f ∈ lookupBuiltins, Reach f := by
  simp only [lookupBuiltins, List.forall_mem_cons, List.not_mem_nil, false_implies,
    implies_true, and_true]
  exact ⟨.arguments (local_tableLookup false), .arguments (local_tableLookup true),
    .arguments local_matchPlace, .arguments local_parallelLookup, .arguments local_index,
    .arguments local_rowNumber, .arguments local_rowsOf, .arguments local_columnNumber,
    .arguments local_columnsOf⟩

theorem reach_text : ∀ f ∈ textBuiltins, Reach f := by
  simp only [textBuiltins, List.forall_mem_cons, List.not_mem_nil, false_implies,
    implies_true, and_true]
  refine ⟨reach_scalar fun _ _ _ => rfl, reach_scalar fun _ _ _ => rfl,
    reach_scalar fun _ _ _ => rfl, reach_scalar fun _ _ _ => rfl, reach_scalar fun _ _ _ => rfl,
    reach_scalar fun _ _ _ => rfl, reach_scalar fun _ _ _ => rfl, reach_scalar fun _ _ _ => rfl,
    reach_scalar fun _ _ _ => rfl, reach_scalar fun _ _ _ => rfl, reach_scalar fun _ _ _ => rfl,
    reach_scalar fun _ _ _ => rfl, reach_scalar fun _ _ _ => rfl, reach_scalar fun _ _ _ => rfl,
    ?_⟩
  exact ⟨.arguments local_joinTexts, .arguments local_concatAll, reach_scalar fun _ _ _ => rfl⟩

theorem reach_date : ∀ f ∈ dateBuiltins, Reach f := by
  simp only [dateBuiltins, List.forall_mem_cons, List.not_mem_nil, false_implies,
    implies_true, and_true]
  refine ⟨.anew rfl, .anew rfl, ?_⟩
  exact ⟨reach_scalar fun _ _ _ => rfl, reach_scalar fun _ _ _ => rfl,
    reach_scalar fun _ _ _ => rfl, reach_scalar fun _ _ _ => rfl, reach_scalar fun _ _ _ => rfl,
    reach_scalar fun _ _ _ => rfl, reach_scalar fun _ _ _ => rfl, reach_scalar fun _ _ _ => rfl,
    reach_scalar fun _ _ _ => rfl, reach_scalar fun _ _ _ => rfl⟩

/-- **Every function of the table** keeps to its arguments, apart from those that are evaluated anew
    each time and the two that stretch a rectangle. -/
theorem reach_of_mem {f : Builtin} (h : f ∈ builtins) : Reach f := by
  simp only [builtins, List.mem_append] at h
  rcases h with ((((h | h) | h) | h) | h) | h
  · exact reach_arithmetic f h
  · exact reach_summary f h
  · exact reach_logic f h
  · exact reach_lookup f h
  · exact reach_text f h
  · exact reach_date f h

example : (builtins.filter Builtin.isVolatile).map Builtin.name =
    ["RAND", "RANDBETWEEN", "TODAY", "NOW"] := by rfl

/-- The two functions that stretch a rectangle. -/
theorem eq_of_stretches {f : Builtin} (hf : f ∈ builtins) (hs : f.stretches = true) :
    f = ⟨"SUMIF", 2, some 3, [.range, .scalar, .range], false, sumIf⟩ ∨
      f = ⟨"AVERAGEIF", 2, some 3, [.range, .scalar, .range], false, averageIf⟩ := by
  have hfilter : f ∈ builtins.filter Builtin.stretches := List.mem_filter.mpr ⟨hf, hs⟩
  have htable : builtins.filter Builtin.stretches =
      [⟨"SUMIF", 2, some 3, [.range, .scalar, .range], false, sumIf⟩,
        ⟨"AVERAGEIF", 2, some 3, [.range, .scalar, .range], false, averageIf⟩] := by
    rfl
  rw [htable] at hfilter
  exact (List.mem_cons.mp hfilter).imp_right List.mem_singleton.mp

/-- They compute from their conditional numbers. -/
theorem run_congr_of_stretches {f : Builtin} (hf : f ∈ builtins) (hs : f.stretches = true)
    {args args' : List Arg} (h : conditionalNumbers args = conditionalNumbers args')
    (ctx ctx' : Context) : f.run args ctx = f.run args' ctx' := by
  rcases eq_of_stretches hf hs with rfl | rfl
  · have hsum : sumIf args ctx = sumIf args' ctx' := by simp only [sumIf, h]
    exact hsum
  · have haverage : averageIf args ctx = averageIf args' ctx' := by simp only [averageIf, h]
    exact haverage

end Builtin

end Gridcalc
