import Gridcalc.Proofs.Workbook.Changes
import Gridcalc.Workbook.Sheets

/-!
# Well-formed workbooks

* `ValidSheetName`: what `sheetNameFault?` finds no fault with;
* `SheetsWellFormed`: at least one sheet, valid names that differ, every sheet well-formed;
* `Workbook.WellFormed`: well-formed sheets, and what is known of the formulas is exact at every
  key;
* the elementary changes of a workbook keep it (`WellFormed.put`, `WellFormed.restyle`,
  `WellFormed.recalculate`), and reading every formula anew establishes it
  (`wellFormed_readAll`).
-/

namespace Gridcalc

/-! ## 1. Names -/

/-- A name that a sheet may have: not empty, not too long, and without the forbidden characters. -/
def ValidSheetName (name : String) : Prop :=
  name.toList ≠ [] ∧ name.toList.length ≤ maxSheetName ∧
    ∀ c ∈ name.toList, c ∉ forbiddenInSheetName

theorem sheetNameFault?_eq_none_iff {name : String} :
    sheetNameFault? name.toList = none ↔ ValidSheetName name := by
  unfold sheetNameFault? ValidSheetName
  by_cases hempty : name.toList = []
  · simp [hempty]
  · have hne : name.toList.isEmpty = false := by simpa using hempty
    rw [hne]
    by_cases hlong : maxSheetName < name.toList.length
    · simp only [hlong, if_true, Bool.false_eq_true, if_false]
      constructor
      · intro h
        cases h
      · intro h
        obtain ⟨-, hle, -⟩ := h
        omega
    · simp only [hlong, Bool.false_eq_true, if_false, Option.map_eq_none_iff, List.find?_eq_none,
        List.contains_iff_mem]
      exact ⟨fun h => ⟨hempty, by omega, h⟩, fun h => h.2.2⟩

/-! ## 2. Sheets -/

/-- Sheets as a workbook may have them. -/
structure SheetsWellFormed (sheets : List Worksheet) : Prop where
  ne_nil : sheets ≠ []
  names_valid : ∀ ws ∈ sheets, ValidSheetName ws.name
  names_differ : sheets.Pairwise fun ws ws' => Text.sameIgnoringCase ws.name ws'.name = false
  each : ∀ ws ∈ sheets, ws.WellFormed

section Sheets

variable {sheets sheets' : List Worksheet}

/-- The names of well-formed sheets, with other sheets under them. -/
theorem SheetsWellFormed.of_names (hne : sheets' ≠ [])
    (hvalid : ∀ name ∈ sheets'.map Worksheet.name, ValidSheetName name)
    (hdiffer : (sheets'.map Worksheet.name).Pairwise
      fun a b => Text.sameIgnoringCase a b = false)
    (heach : ∀ ws ∈ sheets', ws.WellFormed) : SheetsWellFormed sheets' where
  ne_nil := hne
  names_valid _ hws := hvalid _ (List.mem_map_of_mem hws)
  names_differ := List.pairwise_map.mp hdiffer
  each := heach

theorem SheetsWellFormed.congr (h : SheetsWellFormed sheets)
    (hnames : sheets'.map Worksheet.name = sheets.map Worksheet.name)
    (heach : ∀ ws ∈ sheets', ws.WellFormed) : SheetsWellFormed sheets' := by
  refine .of_names ?_ ?_ ?_ heach
  · intro e
    subst e
    exact h.ne_nil (List.map_eq_nil_iff.mp hnames.symm)
  · rw [hnames]
    intro name hname
    obtain ⟨ws, hws, rfl⟩ := List.mem_map.mp hname
    exact h.names_valid ws hws
  · rw [hnames]
    exact List.pairwise_map.mpr h.names_differ

/-- Names and the number of sheets are a matter of the frames. -/
theorem SheetsWellFormed.of_sameFrames (h : SheetsWellFormed sheets)
    (hf : SameFrames sheets' sheets) (heach : ∀ ws ∈ sheets', ws.WellFormed) :
    SheetsWellFormed sheets' := by
  refine h.congr ?_ heach
  have e := congrArg (List.map Worksheet.name) hf
  rw [List.map_map, List.map_map] at e
  exact e

/-- Some of the sheets are left. -/
theorem SheetsWellFormed.sublist (h : SheetsWellFormed sheets) (hs : sheets'.Sublist sheets)
    (hne : sheets' ≠ []) : SheetsWellFormed sheets' where
  ne_nil := hne
  names_valid ws hws := h.names_valid ws (hs.subset hws)
  names_differ := h.names_differ.sublist hs
  each ws hws := h.each ws (hs.subset hws)

/-- Another sheet is added, with a name that no other one has. -/
theorem SheetsWellFormed.append (h : SheetsWellFormed sheets) {ws : Worksheet}
    (hws : ws.WellFormed) (hvalid : ValidSheetName ws.name)
    (hnew : ∀ x ∈ sheets, Text.sameIgnoringCase x.name ws.name = false) :
    SheetsWellFormed (sheets ++ [ws]) where
  ne_nil := by simp
  names_valid := List.forall_mem_append.mpr ⟨h.names_valid, by simpa using hvalid⟩
  names_differ := by
    refine List.pairwise_append.mpr ⟨h.names_differ, List.pairwise_singleton _ _, ?_⟩
    intro x hx y hy
    rw [List.mem_singleton.mp hy]
    exact hnew x hx
  each := List.forall_mem_append.mpr ⟨h.each, by simpa using hws⟩

/-- One sheet is replaced by a well-formed one in the same frame. -/
theorem SheetsWellFormed.set (h : SheetsWellFormed sheets) {i : Nat} {ws ws' : Worksheet}
    (hi : sheets[i]? = some ws) (hf : ws'.frame = ws.frame) (hws : ws'.WellFormed) :
    SheetsWellFormed (sheets.set i ws') := by
  refine h.of_sameFrames (.set hi hf) fun x hx => ?_
  rcases List.mem_or_eq_of_mem_set hx with hx | rfl
  · exact h.each x hx
  · exact hws

end Sheets

/-! ## 3. Workbooks -/

/-- A well-formed workbook. Every sheet has its batch with it. That the formulas are known exactly
    says that those and only those keys have a tree, precedents or a place among the volatile cells
    at which the current sheets hold such a formula. -/
structure Workbook.WellFormed (wb : Workbook) : Prop where
  sheets : SheetsWellFormed wb.sheets
  known : ∀ key, wb.calcState.ExactAt wb.sheets key

namespace Workbook

variable {wb : Workbook} {key : CellKey}

theorem WellFormed.getElem? (h : wb.WellFormed) {i : Nat} {ws : Worksheet}
    (hi : wb.sheets[i]? = some ws) : ws.WellFormed :=
  h.sheets.each ws (List.mem_of_getElem? hi)

theorem WellFormed.bounded (h : wb.WellFormed) : ∀ ws ∈ wb.sheets, ws.Bounded :=
  fun ws hws => (h.sheets.each ws hws).bounded

/-- A workbook with the sheets and the calculation state of a well-formed one. -/
theorem WellFormed.of_eq (h : wb.WellFormed) {wb' : Workbook} (hs : wb'.sheets = wb.sheets)
    (hc : wb'.calcState = wb.calcState) : wb'.WellFormed := by
  refine ⟨?_, ?_⟩
  · rw [hs]
    exact h.sheets
  · rw [hs, hc]
    exact h.known

/-! ## 4. Elementary changes -/

theorem WellFormed.put (h : wb.WellFormed) (hin : wb.InGrid key) (cell : Cell) :
    (wb.put key cell).WellFormed := by
  refine ⟨?_, fun k => put_exactAt hin cell fun _ => h.known k⟩
  obtain ⟨ws, hws, hbounds⟩ := hin
  rw [sheets_put hws]
  exact h.sheets.set hws (ws.frame_putCell _ _ _) ((h.getElem? hws).set hbounds cell)

theorem WellFormed.restyle (h : wb.WellFormed) (hin : wb.InGrid key) (style : Nat) :
    (wb.restyle key style).WellFormed := by
  refine ⟨?_, fun k => ?_⟩
  · obtain ⟨ws, hws, hbounds⟩ := hin
    rw [sheets_restyle hws]
    refine h.sheets.set hws (frame_restyled ws _ _ _) ?_
    exact (h.getElem? hws).restyled hbounds style
  · rw [restyle_calcState]
    exact (h.known k).congr (sameFrames_restyle wb key style).symm
      (agreeAt_restyle hin style k).2.symm

/-- What a cell shows for a formula is never without value. -/
theorem formulaValue_ne_empty (ctx : Context) (root : Option Expr) :
    formulaValue ctx root ≠ .empty := by
  have hshown : ∀ v, shownResult v ≠ .empty := by
    intro v
    cases v <;> simp [shownResult]
  unfold formulaValue evaluateFormula
  cases root with
  | none => simp
  | some e =>
    cases e with
    | range sheet r =>
      dsimp only
      cases ctx.view sheet r with
      | error x => simp
      | ok view => exact hshown _
    | _ =>
      dsimp only
      cases evaluate ctx _ with
      | error fault => simp [Except.map]
      | ok v => exact hshown v

theorem taskValue_ne_empty (ambient : Ambient) (sheets : List Worksheet) (root : Option Expr)
    (t : Task) : taskValue ambient sheets root t ≠ .empty := by
  unfold taskValue
  split
  · simp
  · exact formulaValue_ne_empty _ _

/-- Tasks keep every sheet well-formed. -/
theorem each_wellFormed_performTasks {state : CalcState} {ambient : Ambient}
    {sheets : List Worksheet} {tasks : List Task} (h : ∀ ws ∈ sheets, ws.WellFormed) :
    ∀ ws ∈ performTasks state ambient sheets tasks, ws.WellFormed :=
  forall_mem_performTasks h fun _ sheets root t hws =>
    hws.setCached _ _ (taskValue_ne_empty ambient sheets root t)

theorem WellFormed.recalculate (h : wb.WellFormed) (seeds : List CellKey) :
    (wb.recalculate seeds).2.WellFormed := by
  have hframes : SameFrames (wb.recalculate seeds).2.sheets wb.sheets := by
    rw [recalculate_sheets]
    exact sameFrames_performTasks
  refine ⟨h.sheets.of_sameFrames hframes ?_, fun k => ?_⟩
  · rw [recalculate_sheets]
    exact each_wellFormed_performTasks h.sheets.each
  · rw [recalculate_calcState]
    refine (h.known k).congr hframes.symm ?_
    rw [recalculate_sheets, formulaIn_performTasks]

/-- Reading every formula anew makes a workbook of well-formed sheets well-formed. -/
theorem wellFormed_readAll (h : SheetsWellFormed wb.sheets) : wb.readAll.WellFormed := by
  refine ⟨?_, readAll_exactAt wb⟩
  rw [readAll_sheets]
  exact h

/-- **A new workbook is well-formed.** -/
theorem wellFormed_create (settings : Settings) (ambient : Ambient) :
    (create settings ambient).WellFormed := by
  have hsheets : (create settings ambient).sheets =
      [Worksheet.create "Sheet1" settings.rowCount settings.colCount] := rfl
  refine ⟨?_, fun k => CalcState.exactAt_empty ?_⟩
  · rw [hsheets]
    refine ⟨List.cons_ne_nil _ _, ?_, List.pairwise_singleton _ _, ?_⟩
    · have hname : ValidSheetName "Sheet1" := by
        rw [← sheetNameFault?_eq_none_iff]
        decide
      intro ws hws
      rw [List.mem_singleton.mp hws]
      exact hname
    · simpa using Worksheet.wellFormed_create _ _ _
  · rw [hsheets]
    obtain ⟨i, row, col⟩ := k
    cases i <;> simp [formulaIn, cellIn, Worksheet.create, Worksheet.get?, CellStore.get?]

end Workbook

end Gridcalc
