import Gridcalc.Proofs.Workbook.Hiding
import Gridcalc.Proofs.Workbook.Inputs
import Gridcalc.Proofs.Workbook.Reached

/-!
# Workbooks at rest

A workbook is at rest if no batch is open and evaluating everything again would change nothing. It
can then be had back from its inputs.

* `Workbook.AtRest`; `Sound.atRest` and `AtRest.sound` compare it with what operations keep;
* `Workbook.Kept`: what belongs to no sheet, and which batches are open, is the same;
* `AtRest.eq_of_sameInputs`, `AtRest.rebuild_eq`: a sound workbook with the inputs of one at rest,
  and any workbook with these inputs that is rebuilt, is the one at rest;
* `Workbook.Reshown`: other rows are hidden; `AtRest.hideRows`: this leaves a workbook at rest whose
  formulas are stable;
* `Operation.consistent_apply`: the operations, filters included, leave nothing superfluous behind.
-/

namespace Gridcalc

open Relation

namespace Workbook

variable {wb wb' : Workbook}

/-! ## 1. Rest -/

/-- A workbook in which evaluating everything again changes nothing: well-formed, with nothing
    superfluous, and without an open batch. New workbooks have nothing superfluous, and operations
    leave nothing of the kind behind (`consistent_create`, `Operation.consistent_apply`). -/
structure AtRest (wb : Workbook) : Prop where
  wellFormed : wb.WellFormed
  consistent : wb.Consistent
  closed : ∀ i, wb.isUpdating i = false
  unchanged : wb.recalculateAll.2.sheets = wb.sheets

/-- All stored formulas are plain and call neither `SUBTOTAL` nor `AGGREGATE`, so that nothing
    matters to them but the cells that they refer to. -/
structure StableFormulas (wb : Workbook) : Prop where
  plain : wb.PlainFormulas
  unsummarised : ∀ key text e, formulaIn wb.sheets key = some text →
    (parseFormula text).root = some e → ∀ name ∈ e.functionNames, isSummaryName name = false

theorem stableFormulas_of_none (h : ∀ key, formulaIn wb.sheets key = none) :
    wb.StableFormulas := by
  refine ⟨fun key text e htext => ?_, fun key text e htext => ?_⟩ <;>
  · rw [h key] at htext
    cases htext

/-- A pass from all formulas settles all values, and at rest it is no change. -/
theorem AtRest.sound (h : wb.AtRest) : wb.Sound := by
  have hw := h.wellFormed
  have hm := h.consistent.neat.mirrored
  have hsettled : wb.recalculateAll.2.SettledExcept [] :=
    (settledExcept_formulas hw).recalculate hw hm fun _ hkey => hkey
  have hclosed : ∀ i, wb.recalculateAll.2.isUpdating i = false := fun i =>
    (isUpdating_recalculate wb _ i).trans (h.closed i)
  have hsame : wb.recalculateAll.2 = wb :=
    eq_of_sheets_eq (hw.recalculate _) hw (h.consistent.recalculate _) h.consistent hclosed
      h.closed h.unchanged rfl
  rw [hsame] at hsettled
  exact ⟨hw, h.consistent, hsettled⟩

theorem Sound.atRest (h : wb.Sound) (hclosed : ∀ i, wb.isUpdating i = false)
    (hplain : wb.PlainFormulas) : wb.AtRest :=
  ⟨h.wellFormed, h.consistent, hclosed, recalculate_eq_of_correct h.wellFormed
    h.consistent.neat.mirrored hclosed (h.correct hclosed hplain) _⟩

theorem PlainFormulas.of_sameInputs (h : wb.PlainFormulas)
    (hs : SameInputs wb'.sheets wb.sheets) : wb'.PlainFormulas := by
  intro key text e htext hroot
  rw [hs.formulaIn_eq] at htext
  exact h key text e htext hroot

/-! ## 2. What no change of a sheet touches -/

/-- What belongs to no sheet is the same, and so is whether a batch is open. -/
structure Kept (wb wb' : Workbook) : Prop where
  besides : wb'.besides = wb.besides
  isUpdating : ∀ i, wb'.isUpdating i = wb.isUpdating i

theorem Kept.refl (wb : Workbook) : wb.Kept wb := ⟨rfl, fun _ => rfl⟩

theorem Kept.trans {wb'' : Workbook} (h : wb.Kept wb') (h' : wb'.Kept wb'') : wb.Kept wb'' :=
  ⟨h'.besides.trans h.besides, fun i => (h'.isUpdating i).trans (h.isUpdating i)⟩

theorem Kept.closed (h : wb.Kept wb') (hclosed : ∀ i, wb.isUpdating i = false) :
    ∀ i, wb'.isUpdating i = false := fun i => (h.isUpdating i).trans (hclosed i)

theorem kept_put (wb : Workbook) (key : CellKey) (cell : Cell) : wb.Kept (wb.put key cell) :=
  ⟨besides_put wb key cell, isUpdating_put wb key cell⟩

theorem kept_putAll (wb : Workbook) (cells : List (CellKey × Cell)) : wb.Kept (wb.putAll cells) :=
  putAll_induction wb.Kept (.refl wb) fun wb' x _ h => h.trans (kept_put wb' x.1 x.2)

theorem kept_recalculate (wb : Workbook) (seeds : List CellKey) :
    wb.Kept (wb.recalculate seeds).2 :=
  ⟨rfl, isUpdating_recalculate wb seeds⟩

theorem kept_withSheet (wb : Workbook) (i : Nat) (ws : Worksheet) : wb.Kept (wb.withSheet i ws) :=
  ⟨rfl, fun j => by rw [isUpdating_eq, batchAt_withSheet, isUpdating_eq]⟩

theorem kept_mapSheets (wb : Workbook) (f : Nat → Worksheet → Worksheet) :
    wb.Kept (wb.mapSheets f) := by
  refine ⟨rfl, fun i => ?_⟩
  unfold isUpdating mapSheets
  rw [List.getElem?_mapIdx]
  cases wb.tabs[i]? <;> rfl

theorem kept_readAll (wb : Workbook) : wb.Kept wb.readAll := by
  have hfold : ∀ (keys : List CellKey) (wb : Workbook),
      (keys.foldl register wb).besides = wb.besides := by
    intro keys
    induction keys with
    | nil => exact fun _ => rfl
    | cons key keys ih => exact fun wb => (ih _).trans (besides_register wb key)
  refine ⟨hfold _ _, fun i => ?_⟩
  unfold isUpdating
  rw [readAll_tabs]

/-! ## 3. Rebuilding -/

/-- Rebuilding is reading everything anew, with nothing set aside, and a pass from all formulas. -/
theorem rebuild_eq (wb : Workbook) :
    wb.rebuild = (wb.reread (wb.tabs.map Tab.cleared)).recalculateAll.2 := rfl

theorem sheets_cleared (wb : Workbook) : (wb.tabs.map Tab.cleared).map Tab.sheet = wb.sheets := by
  rw [List.map_map]
  rfl

theorem sheets_reread_cleared (wb : Workbook) :
    (wb.reread (wb.tabs.map Tab.cleared)).sheets = wb.sheets := by
  rw [reread, readAll_sheets]
  exact wb.sheets_cleared

theorem kept_reread_cleared (wb : Workbook) :
    wb.Kept (wb.reread (wb.tabs.map Tab.cleared)) := by
  have hcleared : wb.Kept { wb with tabs := wb.tabs.map Tab.cleared } := by
    refine ⟨rfl, fun i => ?_⟩
    unfold isUpdating
    rw [List.getElem?_map]
    cases wb.tabs[i]? <;> rfl
  exact hcleared.trans (kept_readAll _)

theorem kept_rebuild (wb : Workbook) : wb.Kept wb.rebuild :=
  (kept_reread_cleared wb).trans (kept_recalculate _ _)

/-- Reading well-formed sheets anew leads to a well-formed workbook. -/
theorem wellFormed_reread_cleared (h : SheetsWellFormed wb.sheets) :
    (wb.reread (wb.tabs.map Tab.cleared)).WellFormed := by
  refine wellFormed_readAll ?_
  rw [sheets, sheets_cleared]
  exact h

/-- A rebuilt workbook is sound, whatever was known before. -/
theorem sound_rebuild (h : SheetsWellFormed wb.sheets) (ht : ∀ ws ∈ wb.sheets, ws.store.Tight) :
    wb.rebuild.Sound := by
  have hw := wellFormed_reread_cleared h
  have hc : (wb.reread (wb.tabs.map Tab.cleared)).Consistent := by
    refine consistent_reread (fun tab htab => ?_) fun tab htab => ?_
    · obtain ⟨before, -, rfl⟩ := List.mem_map.mp htab
      rfl
    · refine ht _ ?_
      rw [← sheets_cleared]
      exact List.mem_map_of_mem htab
  have hm := hc.neat.mirrored
  exact ⟨hw.recalculate _, hc.recalculate _,
    (settledExcept_formulas hw).recalculate hw hm fun _ hkey => hkey⟩

theorem sameInputs_rebuild (h : SheetsWellFormed wb.sheets) :
    SameInputs wb.rebuild.sheets wb.sheets := by
  have hpass := sameInputs_recalculate (wellFormed_reread_cleared h)
    (wb.reread (wb.tabs.map Tab.cleared)).calcState.formulas.keys
  rw [sheets_reread_cleared] at hpass
  exact hpass

/-- **Rebuilding changes nothing where all cells are correct** once the formulas have been read. -/
theorem sheets_rebuild_of_correct (h : SheetsWellFormed wb.sheets)
    (hclosed : ∀ i, wb.isUpdating i = false)
    (hcorrect : ∀ c, formulaIn wb.sheets c ≠ none →
      (wb.reread (wb.tabs.map Tab.cleared)).CorrectAt c) : wb.rebuild.sheets = wb.sheets := by
  have hpass := recalculate_eq_of_correct (wellFormed_reread_cleared h) (neat_readAll _).mirrored
    ((kept_reread_cleared wb).closed hclosed) (fun c hc => hcorrect c ?_)
    (wb.reread (wb.tabs.map Tab.cleared)).calcState.formulas.keys
  · rw [sheets_reread_cleared] at hpass
    exact hpass
  · rwa [sheets_reread_cleared] at hc

/-! ## 4. Coming back to rest -/

/-- **A sound workbook with the inputs of one at rest is that one.** -/
theorem AtRest.eq_of_sameInputs (h : wb.AtRest) (hplain : wb.PlainFormulas) (hsound : wb'.Sound)
    (hkept : wb.Kept wb') (hs : SameInputs wb'.sheets wb.sheets) : wb' = wb := by
  have hclosed := hkept.closed h.closed
  have hplain' := hplain.of_sameInputs hs
  refine (Workbook.eq_of_sameInputs hsound.wellFormed h.wellFormed hsound.consistent h.consistent
    hclosed h.closed (hsound.correct hclosed hplain') (h.sound.correct h.closed hplain)
    hplain'.tracked hs).2 hkept.besides

/-- **Rebuilding from the inputs of a workbook at rest** leads back to it. -/
theorem AtRest.rebuild_eq (h : wb.AtRest) (hplain : wb.PlainFormulas) (hkept : wb.Kept wb')
    (hw : SheetsWellFormed wb'.sheets) (ht : ∀ ws ∈ wb'.sheets, ws.store.Tight)
    (hs : SameInputs wb'.sheets wb.sheets) : wb'.rebuild = wb :=
  h.eq_of_sameInputs hplain (sound_rebuild hw ht) (hkept.trans (kept_rebuild wb'))
    ((sameInputs_rebuild hw).trans hs)

/-! ## 5. Hidden rows -/

section Hiding

variable {i : Nat} {ws : Worksheet} {rows : List Nat} {hide : Nat → Bool}

/-- Hiding rows is a matter of the hidden rows only. -/
theorem get?_hideRows (ws : Worksheet) (rows : List Nat) (hide : Nat → Bool) (row col : Nat) :
    (ws.hideRows rows hide).get? row col = ws.get? row col := by
  rw [Worksheet.hideRows_eq]
  rfl

theorem outline_hideRows (ws : Worksheet) (rows : List Nat) (hide : Nat → Bool) :
    (ws.hideRows rows hide).outline = ws.outline := by
  rw [Worksheet.hideRows_eq]
  rfl

theorem cellIn_hideRows (hi : wb.sheets[i]? = some ws) (key : CellKey) :
    cellIn (wb.withSheet i (ws.hideRows rows hide)).sheets key = cellIn wb.sheets key := by
  rw [sheets_withSheet, cellIn_set]
  split
  · rename_i hkey
    have hi' : wb.sheets[key.sheet]? = some ws := hkey.1 ▸ hi
    rw [cellIn_eq hi', get?_hideRows]
  · rfl

/-- Only the sets of hidden rows tell the workbooks apart. -/
theorem Consistent.hideRows (h : wb.Consistent) (hi : wb.sheets[i]? = some ws) :
    (wb.withSheet i (ws.hideRows rows hide)).Consistent := by
  refine ⟨h.neat, ?_, fun j => ?_⟩
  · rw [sheets_withSheet]
    refine tight_set h.tight ?_
    have htight := h.tight ws (List.mem_of_getElem? hi)
    rw [Worksheet.hideRows_eq]
    exact htight
  · rw [batchAt_withSheet]
    exact h.clean j

theorem WellFormed.hideRows (h : wb.WellFormed) (hi : wb.sheets[i]? = some ws)
    (hrows : ∀ row ∈ rows, row < ws.rowCount) :
    (wb.withSheet i (ws.hideRows rows hide)).WellFormed := by
  have hwell := Edit.wellFormed_setRowsHidden h i rows hide
  rwa [Edit.after_ok (Edit.setRowsHidden_ok hi hrows)] at hwell

/-- Nothing but hidden rows tells the two workbooks apart. -/
structure Reshown (wb wb' : Workbook) : Prop where
  cellIn_eq : ∀ key, cellIn wb'.sheets key = cellIn wb.sheets key
  outlines : wb.sheets.map Worksheet.outline = wb'.sheets.map Worksheet.outline
  calcState : wb'.calcState = wb.calcState
  kept : wb.Kept wb'

theorem Reshown.refl (wb : Workbook) : wb.Reshown wb := ⟨fun _ => rfl, rfl, rfl, .refl wb⟩

theorem reshown_hideRows (hi : wb.sheets[i]? = some ws) (rows : List Nat) (hide : Nat → Bool) :
    wb.Reshown (wb.withSheet i (ws.hideRows rows hide)) where
  cellIn_eq := cellIn_hideRows hi
  outlines := by
    rw [sheets_withSheet]
    exact (map_set_of_eq hi (outline_hideRows ws rows hide)).symm
  calcState := rfl
  kept := kept_withSheet wb i _

theorem Reshown.formulaIn_eq (h : wb.Reshown wb') (key : CellKey) :
    formulaIn wb'.sheets key = formulaIn wb.sheets key := by
  rw [formulaIn, h.cellIn_eq, formulaIn]

/-- A cell stays correct, unless its formula is a summary or evaluated anew each time. -/
theorem CorrectAt.reshown {c : CellKey} (hcorrect : wb.CorrectAt c) (h : wb.Reshown wb')
    (hw : wb.WellFormed) (hw' : wb'.WellFormed)
    (hv : ∀ e, treeIn wb.sheets c = some e → e.isVolatile = false)
    (hnone : ∀ e, treeIn wb.sheets c = some e → ∀ name ∈ e.functionNames,
      isSummaryName name = false) : wb'.CorrectAt c := by
  obtain ⟨hcircle, hvalue⟩ := hcorrect
  have hagree : ∀ key, AgreeAt wb.sheets wb'.sheets key := fun key =>
    agreeAt_of_cellIn (h.cellIn_eq key).symm
  rw [CorrectAt, h.calcState, ← (hagree c).1]
  refine ⟨hcircle, fun hoff ambient => (hvalue hoff ambient).trans ?_⟩
  have ha : (placeOf wb.sheets c ambient).Aligned (placeOf wb'.sheets c ambient) :=
    ⟨rfl, rfl, rfl, h.outlines, hw.bounded, hw'.bounded⟩
  refine formulaValue_of_agree ha (hagree c).2 hv (fun e htree name hname hsummary => ?_)
    fun p _ => hagree p
  rw [hnone e htree name hname] at hsummary
  cases hsummary

/-- Hiding rows changes no value of a stable formula, so that nothing needs to be evaluated. -/
theorem AtRest.hideRows (h : wb.AtRest) (hstable : wb.StableFormulas)
    (hi : wb.sheets[i]? = some ws) (hrows : ∀ row ∈ rows, row < ws.rowCount) :
    (wb.withSheet i (ws.hideRows rows hide)).AtRest := by
  let hidden := wb.withSheet i (ws.hideRows rows hide)
  have hreshown : wb.Reshown hidden := reshown_hideRows hi rows hide
  have hw' : hidden.WellFormed := h.wellFormed.hideRows hi hrows
  have hc' : hidden.Consistent := h.consistent.hideRows hi
  have hclosed : ∀ j, hidden.isUpdating j = false := hreshown.kept.closed h.closed
  refine ⟨hw', hc', hclosed, recalculate_eq_of_correct hw' hc'.neat.mirrored hclosed
    (fun c hc => ?_) _⟩
  rw [hreshown.formulaIn_eq] at hc
  have hcorrect := h.sound.correct h.closed hstable.plain c hc
  refine hcorrect.reshown hreshown h.wellFormed hw' (fun e htree => ?_) fun e htree => ?_
  all_goals obtain ⟨text, htext, hroot⟩ := Option.bind_eq_some_iff.mp htree
  · exact (hstable.plain c text e htext hroot).1
  · exact hstable.unsummarised c text e htext hroot

end Hiding

end Workbook

/-! ## 6. Operations leave nothing superfluous behind -/

theorem Edit.Filters.consistent {α : Type} {op : Edit α} {wb : Workbook} {sheet : Nat}
    {range : RangeRef} (h : op.Filters sheet range wb) (hc : wb.Consistent) :
    (op.after wb).Consistent := by
  rcases h with ⟨e, he⟩ | ⟨ws, hide, a, hws, -, hok⟩
  · rwa [Edit.after_error he]
  · rw [Edit.after_ok hok]
    exact hc.hideRows hws

/-- **Every operation leaves nothing superfluous behind**, whether or not it is refused. Hence the
    only condition for rest that operations may break is that no batch is open, and filters that
    no summary of the visible rows has to be evaluated again. -/
theorem Operation.consistent_apply (op : Operation) {wb : Workbook} (h : wb.WellFormed)
    (hc : wb.Consistent) : (op.apply wb).Consistent := by
  cases hop : op.hidesRows with
  | false => exact (op.steps h hop).consistent hc
  | true =>
    unfold apply
    cases op with
    | filter sheet range criterion =>
      rw [run, Edit.after_bind_pure]
      exact (Edit.filters_filter criterion).consistent hc
    | filterBy sheet range fails => exact (Edit.filters_filterWith fails).consistent hc
    | clearFilter sheet range => exact (Edit.filters_filterWith fun _ _ => false).consistent hc
    | _ => cases hop

end Gridcalc
