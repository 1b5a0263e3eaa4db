import Gridcalc.Proofs.Workbook.Batching
import Gridcalc.Proofs.Workbook.Undoing

/-!
# Values behind a filter

A filter evaluates nothing. Whatever does not depend on a summary still shows then what it should,
and a summary does not if it comes to something else with the rows that are hidden by now.

* `Filtering`: the filters, the commands among them; `Filtering.rehides`: they hide rows of one
  sheet, or do nothing;
* `Workbook.UnvaryingFormulas`, `Workbook.recalculateAll_eq_iff`: without formulas that are
  evaluated anew each time, evaluating everything changes nothing exactly if no formula cell is
  `Workbook.Outdated`;
* `Workbook.cellIn_recalculate_of_not_behind`: a pass leaves alone what does not look at an outdated
  cell, directly or through others;
* `AtRest.filtering`: which cells a filter leaves outdated.
-/

namespace Gridcalc

open Relation Workbook

/-! ## 1. Filters -/

/-- Whether an action is a filter. -/
def Action.hidesRows : Action → Bool
  | .filter .. | .filterBy .. => true
  | _ => false

/-- A command that keeps nothing, or which rows were hidden. -/
def Command.KeepsHiddenRows (c : Command) : Prop :=
  ∀ saved ∈ c.saved, ∃ sheet range rows, saved = .hiddenRows sheet range rows

/-- The filters: hiding the rows of a range that fail, showing all of them, and a command that
    filters, carried out or undone. The workbook after one that is refused is included. -/
inductive Filtering (wb : Workbook) : Workbook → Prop
  | filter (sheet : Nat) (range : RangeRef) (criterion : RowCriterion) :
    Filtering wb ((Edit.filter sheet range criterion).after wb)
  | filterBy (sheet : Nat) (range : RangeRef) (admits : Worksheet → Nat → Bool) :
    Filtering wb ((Edit.filterBy sheet range admits).after wb)
  | clearFilter (sheet : Nat) (range : RangeRef) :
    Filtering wb ((Edit.clearFilter sheet range).after wb)
  | execute {c : Command} (h : c.action.hidesRows = true) : Filtering wb (c.execute.after wb)
  | unexecute {c : Command} (h : c.KeepsHiddenRows) : Filtering wb (c.unexecute.after wb)

/-- On one sheet some rows of the grid are hidden and others shown. -/
def Workbook.Rehides (wb wb' : Workbook) : Prop :=
  ∃ i ws rows hide, wb.sheets[i]? = some ws ∧ (∀ row ∈ rows, row < ws.rowCount) ∧
    wb' = wb.withSheet i (ws.hideRows rows hide)

section Filters

variable {wb wb' : Workbook} {sheet : Nat} {ws : Worksheet} {range : RangeRef}

/-- Hiding rows stops at the first one beyond the grid. -/
theorem Edit.after_setRowsHidden (hws : wb.sheets[sheet]? = some ws) (rows : List Nat)
    (hide : Nat → Bool) :
    (setRowsHidden sheet rows hide).after wb =
      wb.withSheet sheet (ws.hideRows (rows.takeWhile (· < ws.rowCount)) hide) := by
  induction rows generalizing wb ws with
  | nil => exact (withSheet_self hws).symm
  | cons row rows ih =>
    have hcons : setRowsHidden sheet (row :: rows) hide =
        (setRowHidden sheet row (hide row) >>= fun _ => setRowsHidden sheet rows hide) := rfl
    rw [hcons, after_bind]
    by_cases hrow : row < ws.rowCount
    · rw [setRowHidden_ok hws hrow, List.takeWhile_cons_of_pos (by simpa using hrow)]
      refine (ih (getElem?_withSheet hws _)).trans ?_
      rw [withSheet_withSheet]
      rfl
    · have hset : ws.setHidden row (hide row) =
          .error (.rowOutOfBounds row (ws.rowCount - 1)) := if_pos (Nat.not_lt.mp hrow)
      have hrefused : setRowHidden sheet row (hide row) wb =
          .error (.rowOutOfBounds row (ws.rowCount - 1)) wb := by
        unfold setRowHidden
        rw [bind_ok (getSheet_ok hws), hset]
        rfl
      rw [hrefused, List.takeWhile_cons_of_neg (by simpa using hrow)]
      exact (withSheet_self hws).symm

theorem Edit.rehides_setRowsHidden (hws : wb.sheets[sheet]? = some ws) (rows : List Nat)
    (hide : Nat → Bool) : wb.Rehides ((setRowsHidden sheet rows hide).after wb) :=
  ⟨sheet, ws, _, hide, hws, fun row hrow => by simpa using List.mem_takeWhile_imp hrow,
    after_setRowsHidden hws rows hide⟩

theorem Edit.Filters.rehides {α : Type} {op : Edit α} (h : op.Filters sheet range wb) :
    op.after wb = wb ∨ wb.Rehides (op.after wb) := by
  rcases h with ⟨e, he⟩ | ⟨ws, hide, a, hws, hrange, hok⟩
  · exact .inl (after_error he)
  · exact .inr ⟨sheet, ws, range.rows, hide, hws, lt_rowCount_of_containsRange hrange, after_ok hok⟩

/-- Looking which rows were hidden before and after makes no difference. -/
theorem after_filterKeeping {op : Edit Nat} (h : op.Filters sheet range wb) :
    (filterKeeping sheet range op).after wb = wb ∨
      wb.Rehides ((filterKeeping sheet range op).after wb) := by
  cases hrun : filterKeeping sheet range op wb with
  | error e wb' =>
    rw [Edit.after_error hrun]
    exact .inl (Edit.atomic_filterKeeping h e wb' hrun)
  | ok result wb' =>
    obtain ⟨ws, hide, hws, hrange, rfl, -⟩ := filterKeeping_eq_ok h hrun
    rw [Edit.after_ok hrun]
    exact .inr ⟨sheet, ws, range.rows, hide, hws, Edit.lt_rowCount_of_containsRange hrange, rfl⟩

/-- A command leaves behind what its action does. -/
theorem Command.after_execute (c : Command) (wb : Workbook) :
    c.execute.after wb = c.action.perform.after wb := by
  rw [Command.execute, Edit.after_bind]
  unfold Edit.after
  cases hrun : c.action.perform wb with
  | error e wb' => rfl
  | ok result wb' => cases result <;> rfl

/-- **A filter does nothing but hide rows of one sheet and show others**, if it does anything. -/
theorem Filtering.rehides (h : Filtering wb wb') : wb' = wb ∨ wb.Rehides wb' := by
  cases h with
  | filter sheet range criterion => exact (Edit.filters_filter criterion).rehides
  | filterBy sheet range admits => exact (Edit.filters_filterBy admits).rehides
  | clearFilter sheet range => exact (Edit.filters_filterWith fun _ _ => false).rehides
  | @execute c hc =>
    rw [c.after_execute]
    cases haction : c.action with
    | filter sheet range criterion => exact after_filterKeeping (Edit.filters_filter criterion)
    | filterBy sheet range admits => exact after_filterKeeping (Edit.filters_filterBy admits)
    | _ =>
      rw [haction] at hc
      cases hc
  | @unexecute c hc =>
    unfold Command.unexecute
    cases hsaved : c.saved with
    | none => exact .inl rfl
    | some saved =>
      obtain ⟨sheet, range, rows, rfl⟩ := hc saved hsaved
      dsimp only [Saved.restore]
      rw [Edit.after_checkSheet_bind]
      split
      · rename_i hsheet
        have hws : wb.sheets[sheet]? = some wb.tabs[sheet].sheet := by
          simp [sheets, List.getElem?_eq_getElem hsheet]
        exact .inr (Edit.rehides_setRowsHidden hws _ _)
      · exact .inl rfl

theorem Filtering.reshown (h : Filtering wb wb') : wb.Reshown wb' := by
  rcases h.rehides with rfl | ⟨i, ws, rows, hide, hi, -, rfl⟩
  · exact .refl _
  · exact reshown_hideRows hi rows hide

theorem Filtering.wellFormed (h : Filtering wb wb') (hw : wb.WellFormed) : wb'.WellFormed := by
  rcases h.rehides with rfl | ⟨i, ws, rows, hide, hi, hrows, rfl⟩
  · exact hw
  · exact hw.hideRows hi hrows

theorem Filtering.consistent (h : Filtering wb wb') (hc : wb.Consistent) : wb'.Consistent := by
  rcases h.rehides with rfl | ⟨i, ws, rows, hide, hi, -, rfl⟩
  · exact hc
  · exact hc.hideRows hi

end Filters

/-! ## 2. Correct cells without plain formulas -/

namespace Workbook

variable {wb wb' : Workbook} {seeds : List CellKey} {c : CellKey}

/-- No stored formula is evaluated anew each time. -/
def UnvaryingFormulas (wb : Workbook) : Prop :=
  ∀ c e, treeIn wb.sheets c = some e → e.isVolatile = false

theorem PlainFormulas.unvarying (h : wb.PlainFormulas) : wb.UnvaryingFormulas := by
  intro c e htree
  obtain ⟨text, htext, hroot⟩ := Option.bind_eq_some_iff.mp htree
  exact (h c text e htext hroot).1

/-- A formula cell that does not show what it should. -/
def Outdated (wb : Workbook) (c : CellKey) : Prop :=
  formulaIn wb.sheets c ≠ none ∧ ¬wb.CorrectAt c

/-- The cell looks at an outdated one, directly or through others. -/
def Behind (wb : Workbook) (c : CellKey) : Prop :=
  ∃ s, wb.Outdated s ∧ ReflTransGen (Sees wb.sheets) c s

theorem correctAt_of_not_behind (h : ¬wb.Behind c) (hc : formulaIn wb.sheets c ≠ none) :
    wb.CorrectAt c :=
  not_not.mp fun hn => h ⟨c, ⟨hc, hn⟩, .refl⟩

theorem not_behind_of_sees (h : ¬wb.Behind c) {p : CellKey} (hp : Sees wb.sheets c p) :
    ¬wb.Behind p :=
  fun ⟨s, hs, hps⟩ => h ⟨s, hs, hps.head hp⟩

/-- What a formula comes to does not depend on the time and the random draws. -/
theorem UnvaryingFormulas.formulaValue_eq (h : wb.UnvaryingFormulas) (hw : wb.WellFormed)
    (ambient ambient' : Ambient) :
    formulaValue (placeOf wb.sheets c ambient) (treeIn wb.sheets c) =
      formulaValue (placeOf wb.sheets c ambient') (treeIn wb.sheets c) := by
  have hm : (placeOf wb.sheets c ambient).Matched (placeOf wb.sheets c ambient') :=
    ⟨rfl, rfl, rfl, .refl _, hw.bounded, hw.bounded⟩
  exact formulaValue_of_agree hm.aligned rfl (h c) (fun _ _ _ _ _ => hm.hidesAlike)
    fun _ _ => ⟨rfl, rfl⟩

/-- **If evaluating everything changes nothing, every formula cell is correct**, also where it is
    not known what a formula reads. -/
theorem correct_of_recalculateAll_eq (hw : wb.WellFormed) (hm : wb.calcState.graph.Mirrored)
    (hclosed : ∀ i, wb.isUpdating i = false) (hunvarying : wb.UnvaryingFormulas)
    (hsame : wb.recalculateAll.2.sheets = wb.sheets) :
    ∀ c, formulaIn wb.sheets c ≠ none → wb.CorrectAt c := by
  intro c hc
  let seeds := wb.calcState.formulas.keys
  have hready : c ∈ wb.readyCells seeds := by
    have hseed : c ∈ seeds := by
      rw [Std.ExtTreeMap.mem_keys, ← Std.ExtTreeMap.contains_iff_mem]
      exact (hw.known c).contains_iff.mpr hc
    exact mem_readyCells.mpr
      ⟨Graph.mem_dirtyClosure_of_mem hm (mem_passSeeds_of_mem hseed), hclosed c.sheet⟩
  have hsched := Graph.schedule_isSchedule hm (wb.readyCells seeds)
  obtain ⟨G, hG, hcG⟩ := (hsched.covers c).mp hready
  have htask : ⟨c, G.cyclic⟩ ∈ wb.passTasks seeds :=
    List.mem_flatMap.mpr ⟨G, hG, List.mem_map.mpr ⟨c, hcG, rfl⟩⟩
  have hflag := circular_iff_onCycle hm hclosed htask
  have hpass : performTasks wb.calcState wb.ambient wb.sheets (wb.passTasks seeds) = wb.sheets :=
    (recalculate_sheets wb seeds).symm.trans hsame
  have hvalue := taskValue_of_performTasks_eq_self hsched.nodup_tasks
    (fun t _ ht => ?_) hpass _ htask _ ((hw.known c).formulas_eq hc)
  · unfold taskValue at hvalue
    refine ⟨fun hon => ?_, fun hoff ambient => ?_⟩
    · rw [← hvalue, if_pos (hflag.mpr hon)]
    · rw [← hvalue, if_neg fun hcircular => hoff (hflag.mp hcircular)]
      exact hunvarying.formulaValue_eq hw _ _
  · obtain ⟨root, hroot⟩ := Option.ne_none_iff_exists'.mp ht
    exact ((hw.known t.key).eq_of_getElem? hroot).1

/-- Evaluating everything changes nothing exactly if nothing is outdated. -/
theorem recalculateAll_eq_iff (hw : wb.WellFormed) (hm : wb.calcState.graph.Mirrored)
    (hclosed : ∀ i, wb.isUpdating i = false) (hunvarying : wb.UnvaryingFormulas) :
    wb.recalculateAll.2.sheets = wb.sheets ↔ ∀ c, ¬wb.Outdated c := by
  constructor
  · intro hsame c ⟨hc, hn⟩
    exact hn (correct_of_recalculateAll_eq hw hm hclosed hunvarying hsame c hc)
  · intro h
    exact recalculate_eq_of_correct hw hm hclosed (fun c hc => not_not.mp fun hn => h c ⟨hc, hn⟩) _

/-! ## 3. What a pass changes -/

/-- Tasks of a pass leave alone what does not look at an outdated cell: by the last of them nothing
    has changed that its formula looks at, and so it comes to what the cell shows. -/
theorem cellIn_performTasks_of_not_behind (hw : wb.WellFormed)
    (hm : wb.calcState.graph.Mirrored) (hclosed : ∀ i, wb.isUpdating i = false)
    (hunvarying : wb.UnvaryingFormulas) {tasks : List Task}
    (htasks : ∀ t ∈ tasks, t ∈ wb.passTasks seeds) {k : CellKey} (hk : ¬wb.Behind k) :
    cellIn (performTasks wb.calcState wb.ambient wb.sheets tasks) k = cellIn wb.sheets k := by
  induction tasks using List.reverseRecOn generalizing k with
  | nil => rfl
  | append_singleton front t ih =>
    have hfront : ∀ t ∈ front, t ∈ wb.passTasks seeds := fun t ht =>
      htasks t (List.mem_append_left _ ht)
    let before := performTasks wb.calcState wb.ambient wb.sheets front
    have hbefore : ∀ {p}, ¬wb.Behind p → cellIn before p = cellIn wb.sheets p := ih hfront
    rw [performTasks_append]
    refine Eq.trans ?_ (hbefore hk)
    by_cases hkey : k = t.key
    · subst hkey
      refine congrArg (cellIn · t.key) (performTask_eq_self fun root hroot => ?_)
      obtain ⟨hc, rfl⟩ := (hw.known t.key).eq_of_getElem? hroot
      have hshown := (correctAt_of_not_behind hk hc).taskValue_eq hm hclosed
        (htasks t (by simp))
      have hformula : formulaIn wb.sheets t.key = formulaIn before t.key :=
        (formulaIn_performTasks t.key).symm
      have hmatched : (placeOf wb.sheets t.key wb.ambient).Matched
          (placeOf before t.key wb.ambient) :=
        ⟨rfl, rfl, rfl, sameFrames_performTasks.symm, hw.bounded, fun ws hws =>
          (each_wellFormed_performTasks hw.sheets.each ws hws).bounded⟩
      have hsame : formulaValue (placeOf before t.key wb.ambient) (treeIn wb.sheets t.key) =
          formulaValue (placeOf wb.sheets t.key wb.ambient) (treeIn wb.sheets t.key) := by
        rw [formulaValue_of_agree hmatched.aligned hformula (hunvarying t.key)
          (fun _ _ _ _ _ => hmatched.hidesAlike) fun p hp =>
            agreeAt_of_cellIn (hbefore (not_behind_of_sees hk hp)).symm, treeIn_congr hformula]
      have hstill : taskValue wb.ambient before (treeIn wb.sheets t.key) t =
          taskValue wb.ambient wb.sheets (treeIn wb.sheets t.key) t := by
        unfold taskValue
        rw [hsame]
      change taskValue wb.ambient before (treeIn wb.sheets t.key) t = valueIn before t.key
      rw [hstill, hshown, valueIn, valueIn, hbefore hk]
    · exact cellIn_performTask_of_ne hkey

/-- **A pass changes nothing but outdated cells and what looks at them**, directly or through
    others. -/
theorem cellIn_recalculate_of_not_behind (hw : wb.WellFormed)
    (hm : wb.calcState.graph.Mirrored) (hclosed : ∀ i, wb.isUpdating i = false)
    (hunvarying : wb.UnvaryingFormulas) (hc : ¬wb.Behind c) (seeds : List CellKey) :
    cellIn (wb.recalculate seeds).2.sheets c = cellIn wb.sheets c := by
  rw [recalculate_sheets]
  exact cellIn_performTasks_of_not_behind hw hm hclosed hunvarying (fun _ ht => ht) hc

/-! ## 4. What a filter leaves outdated -/

/-- The formula of the cell calls `SUBTOTAL` or `AGGREGATE`. -/
def CallsSummary (sheets : List Worksheet) (c : CellKey) : Prop :=
  ∃ e, treeIn sheets c = some e ∧ ∃ name ∈ e.functionNames, isSummaryName name = true

/-- **After a filter nothing is outdated but summaries.** From a workbook at rest without formulas
    that are evaluated anew each time, filters of any kind lead to one with the same cells, in which
    every outdated cell calls a summary and lies on no circle. Evaluating everything would leave
    alone all cells that do not look at such a summary, directly or through others, and it would
    change nothing exactly if there is none. -/
theorem AtRest.filtering (h : wb.AtRest) (hunvarying : wb.UnvaryingFormulas)
    (hf : Filtering wb wb') :
    (∀ key, cellIn wb'.sheets key = cellIn wb.sheets key) ∧
    (∀ c, wb'.Outdated c → CallsSummary wb'.sheets c ∧ ¬wb'.calcState.graph.OnCycle c) ∧
    (∀ c, ¬wb'.Behind c → cellIn wb'.recalculateAll.2.sheets c = cellIn wb'.sheets c) ∧
    (wb'.recalculateAll.2.sheets = wb'.sheets ↔ ∀ c, ¬wb'.Outdated c) := by
  have hreshown := hf.reshown
  have hw' := hf.wellFormed h.wellFormed
  have hm' := (hf.consistent h.consistent).neat.mirrored
  have hclosed' := hreshown.kept.closed h.closed
  have htree : ∀ c, treeIn wb'.sheets c = treeIn wb.sheets c := fun c =>
    treeIn_congr (hreshown.formulaIn_eq c)
  have hunvarying' : wb'.UnvaryingFormulas := fun c e he => hunvarying c e (htree c ▸ he)
  have hcorrect := correct_of_recalculateAll_eq h.wellFormed h.consistent.neat.mirrored h.closed
    hunvarying h.unchanged
  refine ⟨hreshown.cellIn_eq, fun c ⟨hc, hn⟩ => ?_, fun c hc => ?_, ?_⟩
  · have hbefore := hcorrect c (hreshown.formulaIn_eq c ▸ hc)
    constructor
    · by_contra hnone
      refine hn (hbefore.reshown hreshown h.wellFormed hw' (hunvarying c) fun e he name hname => ?_)
      exact Bool.eq_false_iff.mpr fun hsummary =>
        hnone ⟨e, (htree c).trans he, name, hname, hsummary⟩
    · -- circles are a matter of the graph, which is the same
      intro hon
      refine hn ⟨fun _ => ?_, fun hoff => absurd hon hoff⟩
      rw [hreshown.calcState] at hon
      rw [valueIn, hreshown.cellIn_eq]
      exact hbefore.1 hon
  · exact cellIn_recalculate_of_not_behind hw' hm' hclosed' hunvarying' hc _
  · exact recalculateAll_eq_iff hw' hm' hclosed' hunvarying'

/-! ## 5. A count of visible cells -/

/-- Counts the second cell of the second row, unless the row is hidden. -/
def countFormula : Expr := .call "SUBTOTAL" [.number 103, .cell none (.ofIndices 1 1)]

theorem parse_countFormula : (parseFormula "=SUBTOTAL(103,B2)").root = some countFormula := by
  with_unfolding_all rfl

/-- A cell with a truth value counts as long as its row is shown. -/
theorem subtotal_count {ctx : Context} {ws : Worksheet} (hv : ws.valueAt 1 1 = .boolean true)
    (hf : ws.formulaAt? 1 1 = none) :
    Builtin.subtotal [.value (.number 103), .range ⟨ws, .single (.ofIndices 1 1)⟩] ctx =
      .ok (.number (if ws.isHidden 1 then 0 else 1)) := by
  let view : RangeView := ⟨ws, .single (.ofIndices 1 1)⟩
  have hcode : toWord (wholeOf 103) = 103 := by decide +kernel
  have hnumber : Builtin.numberAt [.value (.number 103), .range view] 0 = .ok 103 := rfl
  have hcells : view.cells = [(.ofIndices 1 1, .boolean true)] := by
    have hsingle : (RangeRef.single (.ofIndices 1 1)).cells = [.ofIndices 1 1] := by decide
    simp only [view, RangeView.cells, hsingle]
    simp [CellRef.ofIndices, hv]
  have hremaining : Builtin.SkipRules.remaining ⟨true, true, false⟩ view =
      if ws.isHidden 1 then [] else [.boolean true] := by
    rw [Builtin.SkipRules.remaining, hcells]
    cases h : ws.isHidden 1 <;>
      simp [Builtin.SkipRules.skips, view, CellRef.ofIndices, h, hf]
  simp only [Builtin.subtotal, view] at hnumber hremaining ⊢
  simp only [hnumber, bind, Except.bind, hcode]
  simp [Builtin.isRange, Builtin.gather, Builtin.gatherArg, hremaining, pure, Except.pure, bind,
    Except.bind]
  cases ws.isHidden 1 <;> rfl

/-- What the count comes to in the first cell of a sheet with a cell to count. -/
theorem formulaValue_count {sheets : List Worksheet} {ws : Worksheet}
    (hws : sheets[0]? = some ws) (hin : ws.inBounds 1 1 = true)
    (hv : ws.valueAt 1 1 = .boolean true) (hf : ws.formulaAt? 1 1 = none) (ambient : Ambient) :
    formulaValue (placeOf sheets ⟨0, 0, 0⟩ ambient) (some countFormula) =
      .number (if ws.isHidden 1 then 0 else 1) := by
  let ctx := placeOf sheets ⟨0, 0, 0⟩ ambient
  let f : Builtin := ⟨"SUBTOTAL", 2, none, [.scalar, .range], false, Builtin.subtotal⟩
  have hview : ctx.view none (.single (.ofIndices 1 1)) = .ok ⟨ws, .single (.ofIndices 1 1)⟩ := by
    obtain ⟨hlen, hget⟩ := List.getElem?_eq_some_iff.mp hws
    have hsheet : ctx.sheetOf? none = some ws := by
      simp [Context.sheetOf?, sheetOfReference?, ctx, placeOf, hlen, hget]
    rw [Context.view, hsheet]
    exact if_pos hin
  have hfind : findBuiltin? "SUBTOTAL" = some f := rfl
  have hargs : evaluateArgs ctx f 0 [.number 103, .cell none (.ofIndices 1 1)] =
      .ok [.value (.number 103), .range ⟨ws, .single (.ofIndices 1 1)⟩] := by
    simp [evaluateArgs, evaluate, argOf, f, Builtin.kindAt, rangeArg, hview, bind, Except.bind,
      pure, Except.pure]
  have haccepts : f.accepts 2 = true := by decide
  have hcall : evaluate ctx countFormula = .ok (.number (if ws.isHidden 1 then 0 else 1)) := by
    simp only [countFormula, evaluate, hfind, List.length_cons, List.length_nil, Nat.zero_add,
      Nat.reduceAdd, haccepts, hargs]
    simp [f, bind, Except.bind, subtotal_count hv hf, Outcome.settle]
  simp only [formulaValue, countFormula, evaluateFormula] at hcall ⊢
  rw [hcall]
  rfl

/-- The count, in the first cell, and a cell to count. -/
def counting : Workbook :=
  Operation.applyAll [.cell 0 1 1 (.setValue (.boolean true)),
    .cell 0 0 0 (.setFormula "=SUBTOTAL(103,B2)")] (create {} ⟨default, fun _ => 0⟩)

theorem reached_counting : counting.Reached :=
  ⟨{}, ⟨default, fun _ => 0⟩, [.cell 0 1 1 (.setValue (.boolean true)),
    .cell 0 0 0 (.setFormula "=SUBTOTAL(103,B2)")], by simp [Operation.hidesRows], rfl⟩

theorem isUpdating_counting (i : Nat) : counting.isUpdating i = false := by
  rw [counting, Operation.isUpdating_applyAll (by simp [Operation.onCell])]
  cases i <;> rfl

/-- What was put into the workbook, and that its rows are all shown. -/
theorem inputIn_counting : SameFrames counting.sheets (create {} ⟨default, fun _ => 0⟩).sheets ∧
    ∀ k, inputIn counting.sheets k =
      if ⟨0, 0, 0⟩ = k then some (.ofFormula "=SUBTOTAL(103,B2)")
      else if ⟨0, 1, 1⟩ = k then some (.ofValue (.boolean true)) else none := by
  let start := create {} ⟨default, fun _ => 0⟩
  let counted := (Edit.writeContents 0 1 1 (.ofValue (.boolean true))).after start
  have hstart : start.WellFormed := wellFormed_create _ _
  have hgrid : start.InGrid ⟨0, 1, 1⟩ := ⟨_, rfl, by decide⟩
  have hsteps := (Edit.writes_writeContents start 0 1 1 (.ofValue (.boolean true))).steps
  have hcounted : counted.WellFormed := hsteps.wellFormed hstart
  have hframes : SameFrames counted.sheets start.sheets := sameFrames_writeContents hstart hgrid _
  have hinput : ∀ k, inputIn counted.sheets k =
      if ⟨0, 1, 1⟩ = k then some (.ofValue (.boolean true)) else none := by
    intro k
    refine (inputIn_writeContents hstart hgrid (.ofValue (.boolean true)) k).trans ?_
    have hnone : inputIn start.sheets k = none := by
      rw [inputIn, cellIn_create]
      rfl
    rw [hnone]
    rfl
  have hgrid' : counted.InGrid ⟨0, 0, 0⟩ :=
    InGrid.of_sameFrames ⟨_, rfl, by decide⟩ hframes.symm
  have hrun : counting =
      (Edit.writeContents 0 0 0 (.ofFormula "=SUBTOTAL(103,B2)")).after counted :=
    apply_setFormula (by decide) _
  rw [hrun]
  refine ⟨Eq.trans (sameFrames_writeContents hcounted hgrid' _) hframes, fun k => ?_⟩
  refine (inputIn_writeContents hcounted hgrid' _ k).trans ?_
  rw [hinput, styleIn_eq_input, hinput]
  rfl

theorem formulaIn_counting (k : CellKey) :
    formulaIn counting.sheets k = if ⟨0, 0, 0⟩ = k then some "=SUBTOTAL(103,B2)" else none := by
  rw [formulaIn_eq_input, inputIn_counting.2]
  split
  · rfl
  · split <;> rfl

/-- The count is the only formula. -/
theorem eq_countFormula {k : CellKey} {text : String} {e : Expr}
    (htext : formulaIn counting.sheets k = some text) (hroot : (parseFormula text).root = some e) :
    k = ⟨0, 0, 0⟩ ∧ e = countFormula := by
  rw [formulaIn_counting] at htext
  split at htext
  · rename_i hk
    rw [← Option.some.inj htext, parse_countFormula] at hroot
    exact ⟨hk.symm, (Option.some.inj hroot).symm⟩
  · cases htext

theorem plain_counting : counting.PlainFormulas := by
  intro k text e htext hroot
  obtain ⟨-, rfl⟩ := eq_countFormula htext hroot
  refine ⟨by decide, fun call hcall => ?_⟩
  obtain rfl : call = ("SUBTOTAL", [.number 103, .cell none (.ofIndices 1 1)]) :=
    List.mem_singleton.mp hcall
  exact fun hstretches => absurd hstretches (by decide)

theorem atRest_counting : counting.AtRest :=
  reached_counting.sound.atRest isUpdating_counting plain_counting

/-- The sheet with the cell to count. -/
theorem sheet_counting : ∃ ws, counting.sheets[0]? = some ws ∧ ws.inBounds 1 1 = true ∧
    ws.valueAt 1 1 = .boolean true ∧ ws.formulaAt? 1 1 = none ∧ ws.isHidden 1 = false := by
  obtain ⟨hframes, hinputs⟩ := inputIn_counting
  obtain ⟨ws, hws, hframe⟩ := hframes.symm.getElem?
    (show (create {} ⟨default, fun _ => 0⟩).sheets[0]? = some _ from rfl)
  have hformula : formulaIn counting.sheets ⟨0, 1, 1⟩ = none := by
    rw [formulaIn_counting]
    rfl
  have hcell : ws.get? 1 1 = some (.ofValue (.boolean true)) := by
    rw [← cellIn_eq hws, ← inputIn_eq_of_literal hformula, hinputs]
    rfl
  refine ⟨ws, hws, ?_, ?_, ?_, ?_⟩
  · exact atRest_counting.wellFormed.bounded ws (List.mem_of_getElem? hws) 1 1 _ hcell
  · rw [Worksheet.valueAt, Worksheet.value?, hcell]
    rfl
  · rwa [← formulaIn_eq hws]
  · rw [← isHidden_of_frame hframe]
    rfl

/-- The count does not refer to its own cell, and there is no other formula. -/
theorem not_onCycle_counting : ¬counting.calcState.graph.OnCycle ⟨0, 0, 0⟩ := by
  intro hon
  obtain ⟨b, -, hlast⟩ := TransGen.tail'_iff.mp hon
  have hread := (atRest_counting.wellFormed.known b).reads_iff.mp hlast
  obtain ⟨e, htree, hmem⟩ := mem_readIn.mp hread
  obtain ⟨text, htext, hroot⟩ := Option.bind_eq_some_iff.mp htree
  obtain ⟨-, rfl⟩ := eq_countFormula htext hroot
  obtain ⟨r, hr, hmem⟩ := mem_precedentsOf.mp hmem
  obtain rfl : r = .cell none (.ofIndices 1 1) := List.mem_singleton.mp hr
  obtain ⟨-, -, -, hin, -⟩ := Reference.mem_precedents.mp hmem
  exact absurd hin (by decide)

/-- **A filter leaves a count of visible cells outdated** that was right before: hiding the row of
    the cell that it counts does not reach it. -/
theorem filtering_counting :
    ∃ wb', Filtering counting wb' ∧ wb'.Outdated ⟨0, 0, 0⟩ ∧
      valueIn wb'.sheets ⟨0, 0, 0⟩ = .number 1 ∧ wb'.recalculateAll.2.sheets ≠ wb'.sheets := by
  obtain ⟨ws, hws, hin, hv, hf, hshown⟩ := sheet_counting
  let range : RangeRef := .between 1 1 1 1
  let criterion : RowCriterion := .equals 1 (.boolean false)
  let hidden := ws.hideRows range.rows fun row => !criterion.admits ws row
  let wb' := counting.withSheet 0 hidden
  have hfiltered : (Edit.filter 0 range criterion).after counting = wb' :=
    Edit.after_ok (Edit.filter_ok criterion hws hin)
  have hfiltering : Filtering counting wb' := hfiltered ▸ .filter 0 range criterion
  have htree : treeIn counting.sheets ⟨0, 0, 0⟩ = some countFormula := by
    rw [treeIn, formulaIn_counting]
    exact parse_countFormula
  have hformula : formulaIn counting.sheets ⟨0, 0, 0⟩ ≠ none := by simp [formulaIn_counting]
  obtain ⟨hcells, -, -, hrest⟩ := atRest_counting.filtering plain_counting.unvarying hfiltering
  have hvalue : valueIn wb'.sheets ⟨0, 0, 0⟩ = .number 1 := by
    have hcorrect := atRest_counting.sound.correct isUpdating_counting plain_counting _ hformula
    have hcount := hcorrect.2 not_onCycle_counting counting.ambient
    rw [htree, formulaValue_count hws hin hv hf, hshown] at hcount
    rw [valueIn, hcells]
    exact hcount
  have houtdated : wb'.Outdated ⟨0, 0, 0⟩ := by
    refine ⟨hfiltering.reshown.formulaIn_eq _ ▸ hformula, fun hcorrect => ?_⟩
    have hws' : wb'.sheets[0]? = some hidden := getElem?_withSheet hws hidden
    have hhidden : hidden.isHidden 1 = true := by
      have hmem : 1 ∈ hidden.store.hidden := by
        rw [Worksheet.mem_hidden_hideRows, if_pos (by decide), RowCriterion.admits, hv]
        rfl
      exact Std.ExtTreeSet.contains_iff_mem.mpr hmem
    have hsame : hidden.inBounds 1 1 = ws.inBounds 1 1 ∧ hidden.valueAt 1 1 = ws.valueAt 1 1 ∧
        hidden.formulaAt? 1 1 = ws.formulaAt? 1 1 := by
      have heq : hidden = _ := Worksheet.hideRows_eq ws range.rows _
      rw [heq]
      exact ⟨rfl, rfl, rfl⟩
    rw [← hsame.1] at hin
    have hcount := hcorrect.2 not_onCycle_counting counting.ambient
    rw [treeIn_congr (hfiltering.reshown.formulaIn_eq _), htree, hvalue,
      formulaValue_count hws' hin (hsame.2.1.trans hv) (hsame.2.2.trans hf), hhidden] at hcount
    exact absurd hcount (by decide +kernel)
  exact ⟨wb', hfiltering, houtdated, hvalue, fun hsame => hrest.mp hsame _ houtdated⟩

end Workbook

end Gridcalc
