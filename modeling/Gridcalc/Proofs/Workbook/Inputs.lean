import Gridcalc.Proofs.Workbook.Settled

/-!
# Inputs determine values

What users put into the sheets, and that nothing else matters for the values of formulas.

* `Cell.input`, `inputIn`: a cell without the value that its formula came to;
* `SameInputs`: the same names, sizes and hidden rows, and the same formulas, literals and styles;
* `valueIn_eq_of_sameInputs`: where every formula cell is correct, the inputs determine all values;
* `eq_of_sheets_eq`, `eq_of_sameInputs`: sheets, and whole workbooks without an open batch, are then
  the same;
* the elementary changes say what becomes of the inputs (`inputIn_put`, `sameInputs_recalculate`).
-/

namespace Gridcalc

open Relation

/-! ## 1. Inputs -/

/-- A cell without the value that its formula came to. -/
def Cell.input (cell : Cell) : Cell := if cell.isFormula then cell.withValue .empty else cell

/-- What was put into the place of a key. -/
def inputIn (sheets : List Worksheet) (key : CellKey) : Option Cell :=
  (cellIn sheets key).map Cell.input

/-- The same names, sizes and hidden rows, and the same formulas, literals and styles in every
    cell. -/
structure SameInputs (sheets sheets' : List Worksheet) : Prop where
  frames : SameFrames sheets sheets'
  inputs : ∀ key, inputIn sheets key = inputIn sheets' key

theorem SameInputs.refl (sheets : List Worksheet) : SameInputs sheets sheets :=
  ⟨.refl _, fun _ => rfl⟩

theorem SameInputs.symm {sheets sheets' : List Worksheet} (h : SameInputs sheets sheets') :
    SameInputs sheets' sheets :=
  ⟨h.frames.symm, fun key => (h.inputs key).symm⟩

theorem SameInputs.trans {sheets sheets' sheets'' : List Worksheet}
    (h : SameInputs sheets sheets') (h' : SameInputs sheets' sheets'') :
    SameInputs sheets sheets'' :=
  ⟨Eq.trans h.frames h'.frames, fun key => (h.inputs key).trans (h'.inputs key)⟩

namespace Cell

@[simp] theorem formula_input (cell : Cell) : cell.input.formula = cell.formula := by
  unfold input
  split <;> rfl

@[simp] theorem style_input (cell : Cell) : cell.input.style = cell.style := by
  unfold input
  split <;> rfl

theorem input_of_literal {cell : Cell} (h : cell.formula = none) : cell.input = cell := by
  simp [input, isFormula, h]

/-- A value that a formula comes to is no part of the input. -/
theorem input_withValue {cell : Cell} (h : cell.formula ≠ none) (v : Value) :
    (cell.withValue v).input = cell.input := by
  obtain ⟨text, ht⟩ := Option.ne_none_iff_exists'.mp h
  simp [input, isFormula, withValue, ht]

theorem input_relabelled (cell : Cell) (relabel : String → String) :
    (cell.relabelled relabel).input = cell.input.relabelled relabel := by
  obtain ⟨formula, value, style⟩ := cell
  cases formula <;> rfl

/-- A cell is known by its input and its value. -/
theorem eq_of_input {cell cell' : Cell} (h : cell.input = cell'.input)
    (hv : cell.value = cell'.value) : cell = cell' := by
  have hformula : cell.formula = cell'.formula := by
    rw [← formula_input, h, formula_input]
  have hstyle : cell.style = cell'.style := by
    rw [← style_input, h, style_input]
  cases cell
  cases cell'
  simp_all

/-- Whether a cell is blank is a matter of its input. -/
theorem input_unlessBlank (cell : Cell) : cell.unlessBlank.map input = cell.input.unlessBlank := by
  cases hf : cell.formula with
  | none =>
    rw [input_of_literal hf]
    unfold unlessBlank
    split
    · rfl
    · rw [Option.map_some, input_of_literal hf]
  | some text =>
    have hblank : cell.isBlank = false := by simp [isBlank, hf]
    have hblank' : cell.input.isBlank = false := by simp [isBlank, hf]
    simp [unlessBlank, hblank, hblank']

theorem input_withStyle (cell : Cell) (style : Nat) :
    (cell.withStyle style).input = cell.input.withStyle style := by
  unfold input
  have hformula : (cell.withStyle style).isFormula = cell.isFormula := rfl
  rw [hformula]
  split <;> rfl

end Cell

section Inputs

variable {sheets sheets' : List Worksheet} {key k : CellKey}

theorem formulaIn_eq_input (sheets : List Worksheet) (key : CellKey) :
    formulaIn sheets key = (inputIn sheets key).bind Cell.formula := by
  unfold formulaIn inputIn
  cases cellIn sheets key <;> simp

theorem SameInputs.formulaIn_eq (h : SameInputs sheets sheets') (key : CellKey) :
    formulaIn sheets key = formulaIn sheets' key := by
  rw [formulaIn_eq_input, h.inputs, formulaIn_eq_input]

/-- A literal is its own input. -/
theorem inputIn_eq_of_literal (h : formulaIn sheets key = none) :
    inputIn sheets key = cellIn sheets key := by
  unfold formulaIn at h
  unfold inputIn
  cases hc : cellIn sheets key with
  | none => rfl
  | some cell =>
    rw [hc] at h
    rw [Option.map_some, Cell.input_of_literal h]

theorem SameInputs.valueIn_eq_of_literal (h : SameInputs sheets sheets')
    (hf : formulaIn sheets key = none) : valueIn sheets key = valueIn sheets' key := by
  have hf' : formulaIn sheets' key = none := h.formulaIn_eq key ▸ hf
  rw [valueIn, ← inputIn_eq_of_literal hf, h.inputs key, inputIn_eq_of_literal hf', valueIn]

/-- Inputs and values make up all that is stored. -/
theorem SameInputs.cellIn_eq (h : SameInputs sheets sheets')
    (hv : valueIn sheets key = valueIn sheets' key) : cellIn sheets key = cellIn sheets' key := by
  have hinput := h.inputs key
  unfold inputIn at hinput
  unfold valueIn at hv
  cases hc : cellIn sheets key with
  | none =>
    rw [hc, Option.map_none] at hinput
    exact (Option.map_eq_none_iff.mp hinput.symm).symm
  | some cell =>
    rw [hc, Option.map_some] at hinput hv
    obtain ⟨cell', hc', hinput⟩ := Option.map_eq_some_iff.mp hinput.symm
    rw [hc', Option.map_some, Option.getD_some, Option.getD_some] at hv
    rw [hc', Cell.eq_of_input hinput hv.symm]

/-- Sheets without empty rows are known by their frames and cells. -/
theorem sheets_eq_of_cellIn (hf : SameFrames sheets sheets')
    (ht : ∀ ws ∈ sheets, ws.store.Tight) (ht' : ∀ ws ∈ sheets', ws.store.Tight)
    (hcells : ∀ key, cellIn sheets key = cellIn sheets' key) : sheets = sheets' := by
  refine List.ext_getElem? fun i => ?_
  cases hws : sheets[i]? with
  | none =>
    rw [List.getElem?_eq_none_iff, hf.length_eq, ← List.getElem?_eq_none_iff] at hws
    exact hws.symm
  | some ws =>
    obtain ⟨ws', hws', hframe⟩ := hf.getElem? hws
    rw [hws']
    have hstored : ∀ r c, ws.store.get? r c = ws'.store.get? r c := by
      intro r c
      have e := hcells ⟨i, r, c⟩
      rw [cellIn_eq hws, cellIn_eq hws'] at e
      exact e
    obtain ⟨hname, hrows, hcols, hhidden⟩ : ws.name = ws'.name ∧ ws.rowCount = ws'.rowCount ∧
        ws.colCount = ws'.colCount ∧ ws.store.hidden = ws'.store.hidden := by
      simpa [Worksheet.frame] using hframe
    have hstore : ws.store = ws'.store := CellStore.ext_get?
      (ht ws (List.mem_of_getElem? hws)) (ht' ws' (List.mem_of_getElem? hws')) hstored hhidden
    cases ws
    cases ws'
    simp_all

end Inputs

/-! ## 2. Inputs determine values -/

namespace Workbook

variable {wb wb' : Workbook} {key : CellKey}

/-- The cells with formulas. -/
def formulaSet (wb : Workbook) : CellSet := Std.ExtTreeSet.ofList wb.formulaKeys

theorem mem_formulaSet : key ∈ wb.formulaSet ↔ formulaIn wb.sheets key ≠ none := by
  rw [formulaSet, Std.ExtTreeSet.mem_ofList, List.contains_iff_mem, mem_formulaKeys]

/-- **Inputs determine values**: two workbooks with the same inputs, in both of which every formula
    cell is correct, show the same everywhere. -/
theorem valueIn_eq_of_sameInputs (hw : wb.WellFormed) (hw' : wb'.WellFormed)
    (hm : wb.calcState.graph.Mirrored)
    (hcorrect : ∀ c, formulaIn wb.sheets c ≠ none → wb.CorrectAt c)
    (hcorrect' : ∀ c, formulaIn wb'.sheets c ≠ none → wb'.CorrectAt c)
    (htracked : ∀ c, ¬Untracked wb.sheets c) (h : SameInputs wb.sheets wb'.sheets)
    (c : CellKey) : valueIn wb.sheets c = valueIn wb'.sheets c := by
  by_cases hc : formulaIn wb.sheets c = none
  · exact h.valueIn_eq_of_literal hc
  have hreads : wb.calcState.graph.Reads = wb'.calcState.graph.Reads := by
    funext a b
    rw [eq_iff_iff, (hw.known a).reads_iff, (hw'.known a).reads_iff,
      readIn_congr h.frames.map_outline_eq (h.formulaIn_eq a)]
  have hcycle : ∀ c, wb.calcState.graph.OnCycle c ↔ wb'.calcState.graph.OnCycle c := by
    intro c
    rw [Graph.OnCycle, hreads, Graph.OnCycle]
  -- along the schedule of all formulas of one of the workbooks
  refine (Graph.schedule_isSchedule hm wb.formulaSet).induction
    (P := fun c => valueIn wb.sheets c = valueIn wb'.sheets c) (fun c hc hread => ?_)
    (mem_formulaSet.mpr hc)
  have hc := mem_formulaSet.mp hc
  have hc' : formulaIn wb'.sheets c ≠ none := h.formulaIn_eq c ▸ hc
  by_cases hon : wb.calcState.graph.OnCycle c
  · rw [(hcorrect c hc).1 hon, (hcorrect' c hc').1 ((hcycle c).mp hon)]
  · rw [(hcorrect c hc).2 hon wb.ambient, (hcorrect' c hc').2 (fun e => hon ((hcycle c).mpr e))
      wb.ambient]
    refine formulaValue_congr h.frames hw.bounded hw'.bounded (htracked c) (h.formulaIn_eq c)
      (fun p hp => ⟨?_, h.formulaIn_eq p⟩) _ _
    by_cases hpf : formulaIn wb.sheets p = none
    · exact h.valueIn_eq_of_literal hpf
    · have hreads := (hw.known c).reads_iff.mpr hp
      refine hread (fun hwithin => hon ?_) p (mem_formulaSet.mpr hpf) hreads
      exact TransGen.mono (fun _ _ hstep => hstep.2.2) c c hwithin

/-- Without an open batch nothing is kept of the batches. -/
theorem Consistent.tabs_eq (hc : wb.Consistent) (hclosed : ∀ i, wb.isUpdating i = false) :
    wb.tabs = wb.sheets.map fun sheet => { sheet } := by
  have hbatch : ∀ tab ∈ wb.tabs, tab.batch = {} := by
    intro tab htab
    obtain ⟨i, hi⟩ := List.mem_iff_getElem?.mp htab
    have hat : wb.batchAt i = tab.batch := by simp [batchAt, hi]
    have hopen : (wb.batchAt i).isOpen = false := isUpdating_eq wb i ▸ hclosed i
    have hdirty := hc.clean i hopen
    rw [hat] at hopen hdirty
    cases hb : tab.batch
    simp_all
  rw [sheets, List.map_map]
  refine (List.map_id wb.tabs).symm.trans (List.map_congr_left fun tab htab => ?_)
  have hb := hbatch tab htab
  cases tab
  simp_all

/-- What belongs to no sheet. -/
def besides (wb : Workbook) : Settings × Bool × Ambient :=
  (wb.settings, wb.evaluatesVolatile, wb.ambient)

/-- Two neat workbooks with the same sheets and closed batches differ only in what belongs to no
    sheet. -/
theorem eq_of_sheets_eq (hw : wb.WellFormed) (hw' : wb'.WellFormed) (hc : wb.Consistent)
    (hc' : wb'.Consistent) (hclosed : ∀ i, wb.isUpdating i = false)
    (hclosed' : ∀ i, wb'.isUpdating i = false) (hs : wb.sheets = wb'.sheets)
    (hbesides : wb.besides = wb'.besides) : wb = wb' := by
  have hknown' : ∀ key, wb'.calcState.ExactAt wb.sheets key := fun key => hs ▸ hw'.known key
  have hgraph : wb.calcState.graph = wb'.calcState.graph := by
    refine Graph.ext_precedents hc.neat.mirrored hc'.neat.mirrored hc.neat.tight hc'.neat.tight
      fun a => Std.ExtTreeSet.ext_mem fun p => ?_
    rw [(hw.known a).precedents, (hknown' a).precedents]
  have hformulas : wb.calcState.formulas = wb'.calcState.formulas := by
    refine Std.ExtTreeMap.ext_getElem? fun key => ?_
    rw [(hw.known key).formulas, (hknown' key).formulas]
  have hvolatiles : wb.calcState.volatile = wb'.calcState.volatile := by
    refine Std.ExtTreeSet.ext_mem fun key => ?_
    rw [(hw.known key).volatile, (hknown' key).volatile]
  have htabs : wb.tabs = wb'.tabs := by
    rw [hc.tabs_eq hclosed, hs, ← hc'.tabs_eq hclosed']
  have hcalc : wb.calcState = wb'.calcState := by
    cases hs : wb.calcState
    cases hs' : wb'.calcState
    simp_all
  cases wb
  cases wb'
  simp_all [besides]

/-- **Workbooks with the same inputs are the same**, as soon as all formula cells are correct and no
    batch is open. -/
theorem eq_of_sameInputs (hw : wb.WellFormed) (hw' : wb'.WellFormed) (hc : wb.Consistent)
    (hc' : wb'.Consistent) (hclosed : ∀ i, wb.isUpdating i = false)
    (hclosed' : ∀ i, wb'.isUpdating i = false)
    (hcorrect : ∀ c, formulaIn wb.sheets c ≠ none → wb.CorrectAt c)
    (hcorrect' : ∀ c, formulaIn wb'.sheets c ≠ none → wb'.CorrectAt c)
    (htracked : ∀ c, ¬Untracked wb.sheets c) (h : SameInputs wb.sheets wb'.sheets) :
    wb.sheets = wb'.sheets ∧ (wb.besides = wb'.besides → wb = wb') := by
  have hs : wb.sheets = wb'.sheets := by
    refine sheets_eq_of_cellIn h.frames hc.tight hc'.tight fun c => h.cellIn_eq ?_
    exact valueIn_eq_of_sameInputs hw hw' hc.neat.mirrored hcorrect hcorrect' htracked h c
  exact ⟨hs, eq_of_sheets_eq hw hw' hc hc' hclosed hclosed' hs⟩

/-! ## 3. Inputs along the elementary changes -/

theorem besides_register (wb : Workbook) (key : CellKey) :
    (wb.register key).besides = wb.besides := by
  unfold register
  split <;> rfl

theorem besides_put (wb : Workbook) (key : CellKey) (cell : Cell) :
    (wb.put key cell).besides = wb.besides := by
  unfold put
  split
  · rfl
  · exact besides_register _ key

theorem besides_restyle (wb : Workbook) (key : CellKey) (style : Nat) :
    (wb.restyle key style).besides = wb.besides := by
  unfold restyle
  split <;> rfl

theorem inputIn_put (hin : wb.InGrid key) (cell : Cell) (k : CellKey) :
    inputIn (wb.put key cell).sheets k =
      if key = k then cell.input.unlessBlank else inputIn wb.sheets k := by
  unfold inputIn
  rw [cellIn_put hin]
  split
  · exact cell.input_unlessBlank
  · rfl

/-- No blank cell is stored. -/
theorem WellFormed.unlessBlank_of_cellIn (h : wb.WellFormed) {cell : Cell}
    (hcell : cellIn wb.sheets key = some cell) : cell.unlessBlank = some cell := by
  obtain ⟨ws, hws, hstored⟩ := Option.bind_eq_some_iff.mp hcell
  have hnot := (h.getElem? hws).not_blank _ _ cell hstored
  simp [Cell.unlessBlank, hnot]

/-- What is stored is put back as it is, since no blank cell is stored. -/
theorem WellFormed.input_cellIn_unlessBlank (h : wb.WellFormed) (key : CellKey) :
    ((cellIn wb.sheets key).getD {}).input.unlessBlank = inputIn wb.sheets key := by
  unfold inputIn
  cases hcell : cellIn wb.sheets key with
  | none => rfl
  | some cell =>
    rw [Option.getD_some, ← Cell.input_unlessBlank, h.unlessBlank_of_cellIn hcell]

theorem inputIn_restyle (hin : wb.InGrid key) (style : Nat) (k : CellKey) :
    inputIn (wb.restyle key style).sheets k =
      if key = k then (((inputIn wb.sheets k).getD {}).withStyle style).unlessBlank
      else inputIn wb.sheets k := by
  unfold inputIn
  rw [cellIn_restyle hin]
  split
  · rw [Cell.input_unlessBlank, Cell.input_withStyle]
    cases cellIn wb.sheets k <;> rfl
  · rfl

/-- A pass changes no input. -/
theorem sameInputs_recalculate (hw : wb.WellFormed) (seeds : List CellKey) :
    SameInputs (wb.recalculate seeds).2.sheets wb.sheets := by
  rw [recalculate_sheets]
  refine performTasks_induction (SameInputs · wb.sheets) (.refl _) fun sheets t _ h => ?_
  unfold performTask
  cases hroot : wb.calcState.formulas[t.key]? with
  | none => exact h
  | some root =>
    have hf : formulaIn sheets t.key ≠ none := by
      rw [h.formulaIn_eq]
      exact ((hw.known t.key).eq_of_getElem? hroot).1
    refine SameInputs.trans ⟨sameFrames_storeResult _ _ _, fun k => ?_⟩ h
    unfold inputIn
    rw [cellIn_storeResult]
    split
    · rename_i hk
      subst hk
      unfold formulaIn at hf
      cases hcell : cellIn sheets t.key with
      | none => rfl
      | some cell =>
        rw [hcell, Option.bind_some] at hf
        exact congrArg some (Cell.input_withValue hf _)
    · rfl

end Workbook

end Gridcalc
