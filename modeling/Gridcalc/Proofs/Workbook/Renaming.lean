import Gridcalc.Proofs.Evaluation.Renamed
import Gridcalc.Proofs.Workbook.LineEdits

/-!
# Renamed sheets

A sheet gets another name, and the formulas on all sheets follow.

* `sheetOfReference?_renamed`: references mean the same sheets as before, if the new name was not in
  use;
* `sheetTwins_renamedSheets`: all sheets show the same as before;
* `Workbook.Renamed.correctAt`: cells that were correct are so under the new name;
* `Edit.valueIn_renameSheet`: **renaming a sheet changes the names in formulas and nothing else**.
-/

namespace Gridcalc

open Relation

/-! ## 1. Renamed sheets -/

section Sheets

variable {sheets : List Worksheet} {i home : Nat} {ws : Worksheet} {name : String}
  {relabel : String → String}

theorem getElem?_renamedSheets (sheets : List Worksheet) (i : Nat) (name : String)
    (relabel : String → String) (j : Nat) :
    (renamedSheets sheets i name relabel)[j]? = (sheets[j]?).map fun sheet =>
      if j = i then { sheet.mapFormulas relabel with name } else sheet.mapFormulas relabel :=
  List.getElem?_mapIdx

/-- Another name is no matter for what is stored. -/
theorem cellIn_renamedSheets (sheets : List Worksheet) (i : Nat) (name : String)
    (relabel : String → String) (key : CellKey) :
    cellIn (renamedSheets sheets i name relabel) key =
      (cellIn sheets key).map fun cell => cell.relabelled relabel := by
  unfold cellIn
  rw [getElem?_renamedSheets]
  cases sheets[key.sheet]? with
  | none => rfl
  | some sheet =>
    have hget := sheet.get?_mapFormulas relabel key.row key.col
    rw [Option.map_some, Option.bind_some]
    split
    · exact hget
    · exact hget

theorem formulaIn_renamedSheets (key : CellKey) :
    formulaIn (renamedSheets sheets i name relabel) key =
      (formulaIn sheets key).map relabel := by
  rw [formulaIn, cellIn_renamedSheets, formulaIn]
  cases cellIn sheets key <;> rfl

theorem valueIn_renamedSheets (key : CellKey) :
    valueIn (renamedSheets sheets i name relabel) key = valueIn sheets key := by
  rw [valueIn, cellIn_renamedSheets, valueIn]
  cases cellIn sheets key <;> rfl

/-- Where names differ, a prefix means the sheet with the name. -/
theorem sheetOfReference?_eq_some_iff (h : SheetsWellFormed sheets) {s : String} {j : Nat} :
    sheetOfReference? sheets home (some s) = some j ↔
      ∃ ws, sheets[j]? = some ws ∧ Text.sameIgnoringCase s ws.name = true := by
  have hmeans : ∀ {ws : Worksheet}, sheets[j]? = some ws →
      (LineEdit.means ws.name (home = j) (some s) = true ↔
        sheetOfReference? sheets home (some s) = some j) := fun hws => means_iff h hws (some s)
  constructor
  · intro hs
    obtain ⟨hlen, -, -⟩ := List.findIdx?_eq_some_iff_getElem.mp hs
    have hws := List.getElem?_eq_getElem hlen
    exact ⟨_, hws, (hmeans hws).mpr hs⟩
  · rintro ⟨ws, hws, hname⟩
    exact (hmeans hws).mp hname

/-- **References mean the same sheets** after one of them has been renamed, unless the new name was
    in use. -/
theorem sheetOfReference?_renamed (h : SheetsWellFormed sheets)
    (h' : SheetsWellFormed (renamedSheets sheets i name relabel)) (hws : sheets[i]? = some ws)
    {sheet : Option String} (hfree : ∀ s, sheet = some s → Text.sameIgnoringCase s name = true →
      Text.sameIgnoringCase ws.name name = true) :
    sheetOfReference? (renamedSheets sheets i name relabel) home
        (renamedSheet ws.name name sheet) = sheetOfReference? sheets home sheet := by
  cases sheet with
  | none =>
    rw [renamedSheet, sheetOfReference?, sheetOfReference?, renamedSheets, List.length_mapIdx]
  | some s =>
    cases hs : Text.sameIgnoringCase s ws.name with
    | true =>
      have hold : sheetOfReference? sheets home (some s) = some i :=
        (sheetOfReference?_eq_some_iff h).mpr ⟨ws, hws, hs⟩
      rw [renamedSheet, if_pos hs, hold, sheetOfReference?_eq_some_iff h',
        getElem?_renamedSheets, hws, Option.map_some, if_pos rfl]
      exact ⟨_, rfl, Text.sameIgnoringCase_self name⟩
    | false =>
      -- the prefix is neither the old name nor the new one
      have hother : Text.sameIgnoringCase s name = false := by
        refine Bool.eq_false_iff.mpr fun hnew => ?_
        have hback := hfree s rfl hnew
        rw [Text.sameIgnoringCase_comm] at hback
        rw [Text.sameIgnoringCase_trans hnew hback] at hs
        cases hs
      rw [renamedSheet, if_neg (Bool.eq_false_iff.mp hs)]
      refine Option.ext fun j => ?_
      rw [sheetOfReference?_eq_some_iff h, sheetOfReference?_eq_some_iff h',
        getElem?_renamedSheets]
      by_cases hj : j = i
      · rw [hj, hws, Option.map_some, if_pos rfl]
        simp only [Option.some.injEq, exists_eq_left', hs, hother]
      · cases sheets[j]? with
        | none => simp
        | some sheet =>
          rw [Option.map_some, if_neg hj]
          simp only [Option.some.injEq, exists_eq_left']
          exact Iff.rfl

theorem Worksheet.twins_mapFormulas (ws : Worksheet)
    (h : ∀ row col text, ws.formulaAt? row col = some text →
      Builtin.isSummaryFormula (relabel text) = Builtin.isSummaryFormula text) :
    ws.Twins (ws.mapFormulas relabel) := by
  refine ⟨rfl, rfl, fun _ => rfl, fun row col => ?_, fun row col => ?_⟩
  · rw [valueAt, valueAt, value?, value?, get?_mapFormulas]
    cases ws.get? row col <;> rfl
  · have hformula : (ws.mapFormulas relabel).formulaAt? row col =
        (ws.formulaAt? row col).map relabel := by
      rw [formulaAt?, formulaAt?, get?_mapFormulas]
      cases ws.get? row col <;> rfl
    rw [hformula, Option.map_map]
    cases htext : ws.formulaAt? row col with
    | none => rfl
    | some text => exact congrArg some (h row col text htext).symm

theorem Worksheet.Twins.named {ws ws' : Worksheet} (h : ws.Twins ws') (name : String) :
    ws.Twins { ws' with name } :=
  ⟨h.rowCount, h.colCount, h.hidden, h.value, h.summary⟩

/-- **All sheets show the same**, whatever their names, if formulas call summaries as before. -/
theorem sheetTwins_renamedSheets (h : ∀ key text, formulaIn sheets key = some text →
      Builtin.isSummaryFormula (relabel text) = Builtin.isSummaryFormula text) :
    SheetTwins sheets (renamedSheets sheets i name relabel) := by
  intro j
  rw [getElem?_renamedSheets]
  cases hj : sheets[j]? with
  | none => exact .none
  | some sheet =>
    have htwins : sheet.Twins (sheet.mapFormulas relabel) :=
      sheet.twins_mapFormulas fun row col text htext =>
        h ⟨j, row, col⟩ text ((formulaIn_eq hj).trans htext)
    rw [Option.map_some]
    split
    · exact .some (htwins.named name)
    · exact .some htwins

end Sheets

/-! ## 2. Renamed workbooks -/

namespace Workbook

/-- Every stored formula is read without diagnostics and calls no function that is evaluated anew
    each time. -/
def SteadyFormulas (wb : Workbook) : Prop :=
  ∀ key text, formulaIn wb.sheets key = some text →
    ∃ e, parseFormula text = ⟨some e, []⟩ ∧ e.isVolatile = false

/-- No stored formula refers to a sheet by a name, unless sheet `i` is called so already, ASCII case
    aside. -/
def LeavesName (wb : Workbook) (i : Nat) (name : String) : Prop :=
  ∀ key e, treeIn wb.sheets key = some e → ∀ r ∈ e.references, ∀ s, r.sheet = some s →
    Text.sameIgnoringCase s name = true →
      ∃ ws, wb.sheets[i]? = some ws ∧ Text.sameIgnoringCase ws.name name = true

section Renaming

variable {wb read : Workbook} {i : Nat} {ws : Worksheet} {name : String} {c p : CellKey} {e : Expr}

theorem SteadyFormulas.of_treeIn (h : wb.SteadyFormulas) (htree : treeIn wb.sheets c = some e) :
    ∃ text, formulaIn wb.sheets c = some text ∧ parseFormula text = ⟨some e, []⟩ ∧
      e.isVolatile = false := by
  obtain ⟨text, htext, hroot⟩ := Option.bind_eq_some_iff.mp htree
  obtain ⟨e', hread, hv⟩ := h c text htext
  rw [hread] at hroot
  cases hroot
  exact ⟨text, htext, hread, hv⟩

/-- The sheets of a workbook after sheet `i` has got another name, which formulas have followed. -/
structure Renamed (i : Nat) (ws : Worksheet) (name : String) (wb read : Workbook) : Prop where
  steady : wb.SteadyFormulas
  leaves : wb.LeavesName i name
  named : wb.sheets[i]? = some ws
  nameable : Prefixes name
  before : wb.WellFormed
  after : read.WellFormed
  sheets : read.sheets = renamedSheets wb.sheets i name (renameInFormula ws.name name)

namespace Renamed

variable (h : Renamed i ws name wb read)

include h

theorem twins : SheetTwins wb.sheets read.sheets := by
  rw [h.sheets]
  refine sheetTwins_renamedSheets fun key text htext => ?_
  obtain ⟨e, hread, -⟩ := h.steady key text htext
  exact isSummaryFormula_renameInFormula h.nameable hread ws.name

theorem treeIn_eq (c : CellKey) :
    treeIn read.sheets c = (treeIn wb.sheets c).map (Expr.mapSheets (renamedSheet ws.name name)) := by
  rw [treeIn, h.sheets, formulaIn_renamedSheets, treeIn]
  cases htext : formulaIn wb.sheets c with
  | none => rfl
  | some text =>
    obtain ⟨e, hread, -⟩ := h.steady c text htext
    rw [Option.map_some, Option.bind_some, Option.bind_some,
      parseFormula_renameInFormula h.nameable hread, hread]
    rfl

theorem keepsMeaning (htree : treeIn wb.sheets c = some e) :
    KeepsMeaning (renamedSheet ws.name name) wb.sheets read.sheets c.sheet e := by
  intro r hr
  have hwell := h.after.sheets
  rw [h.sheets] at hwell ⊢
  refine sheetOfReference?_renamed h.before.sheets hwell h.named fun s hs hsame => ?_
  obtain ⟨ws', hws', hname⟩ := h.leaves c e htree r hr s hs hsame
  cases h.named.symm.trans hws'
  exact hname

/-- A formula reads the same cells as before. -/
theorem readIn_eq (c : CellKey) : readIn read.sheets c = readIn wb.sheets c := by
  unfold readIn
  rw [h.treeIn_eq]
  cases htree : treeIn wb.sheets c with
  | none => rfl
  | some e => exact precedentsOf_mapSheets h.twins (h.keepsMeaning htree)

theorem reads_iff : read.calcState.graph.Reads c p ↔ wb.calcState.graph.Reads c p := by
  rw [(h.after.known c).reads_iff, (h.before.known c).reads_iff, h.readIn_eq]

theorem onCycle_iff : read.calcState.graph.OnCycle c ↔ wb.calcState.graph.OnCycle c :=
  transGen_iff_of_agree fun _ _ _ => h.reads_iff

/-- A formula comes to the same as before. -/
theorem formulaValue_eq (ambient : Ambient) :
    formulaValue (placeOf read.sheets c ambient) (treeIn read.sheets c) =
      formulaValue (placeOf wb.sheets c ambient) (treeIn wb.sheets c) := by
  rw [h.treeIn_eq]
  cases htree : treeIn wb.sheets c with
  | none => rfl
  | some e =>
    obtain ⟨text, -, -, hv⟩ := h.steady.of_treeIn htree
    have htwins : (placeOf wb.sheets c ambient).Twins (placeOf read.sheets c ambient) :=
      ⟨rfl, rfl, rfl, h.twins⟩
    unfold formulaValue
    rw [Option.map_some, evaluateFormula_mapSheets htwins (h.keepsMeaning htree) hv]

/-- **A correct cell is correct under the new name.** -/
theorem correctAt (hcorrect : wb.CorrectAt c) : read.CorrectAt c := by
  obtain ⟨hcircle, hvalue⟩ := hcorrect
  have hsame : valueIn read.sheets c = valueIn wb.sheets c := by
    rw [h.sheets, valueIn_renamedSheets]
  rw [CorrectAt, h.onCycle_iff, hsame]
  refine ⟨hcircle, fun hoff ambient => ?_⟩
  rw [h.formulaValue_eq]
  exact hvalue hoff ambient

end Renamed

end Renaming

end Workbook

/-! ## 3. Renaming -/

namespace Edit

open Workbook

variable {wb wb' : Workbook} {i : Nat} {ws : Worksheet} {name : String}

/-- A renaming goes through if the name is accepted. -/
theorem renameSheet_ok (hws : wb.sheets[i]? = some ws)
    (hcheck : wb.checkSheetName name (some i) = .ok ()) :
    renameSheet i name wb = .ok () (withName wb i ws.name name).rebuild := by
  have hlift : lift (wb.checkSheetName name (some i)) wb = .ok () wb := hcheck ▸ lift_ok () wb
  exact (bind_ok (getSheet_ok hws)).trans (bind_ok hlift)

/-- Rebuilding after a renaming finds all cells correct. -/
theorem sheets_rebuild_withName (hw : wb.WellFormed) (hclosed : ∀ i, wb.isUpdating i = false)
    (hcorrect : ∀ c, formulaIn wb.sheets c ≠ none → wb.CorrectAt c)
    (hsteady : wb.SteadyFormulas) (hname : Prefixes name) (hleaves : wb.LeavesName i name)
    (hws : wb.sheets[i]? = some ws) (hcheck : wb.checkSheetName name (some i) = .ok ()) :
    (withName wb i ws.name name).rebuild.sheets = (withName wb i ws.name name).sheets := by
  have hwell := sheetsWellFormed_withName hw hcheck ws.name
  have hrenamed : Renamed i ws name wb ((withName wb i ws.name name).reread
      ((withName wb i ws.name name).tabs.map Tab.cleared)) := by
    refine ⟨hsteady, hleaves, hws, hname, hw, wellFormed_reread_cleared hwell, ?_⟩
    rw [sheets_reread_cleared, sheets_withName]
  have hkept : wb.Kept (withName wb i ws.name name) :=
    (kept_mapSheets wb _).trans (kept_mapSheets _ _)
  refine sheets_rebuild_of_correct hwell (hkept.closed hclosed) fun c hc => ?_
  refine hrenamed.correctAt (hcorrect c fun hnone => hc ?_)
  rw [sheets_withName, formulaIn_renamedSheets, hnone, Option.map_none]

/-- **Renaming a sheet changes no result.** In a well-formed workbook without an open batch, all
    formula cells of which are correct, every formula is read without diagnostics and calls no
    function that is evaluated anew each time. Sheet `i` gets a name that can stand in front of an
    address and that no formula has used. Then every formula is read without diagnostics as its old
    tree, with the new name in place of the old one and no other change; its references mean the
    sheets that they have meant; and no value has changed. -/
theorem valueIn_renameSheet (hw : wb.WellFormed) (hclosed : ∀ i, wb.isUpdating i = false)
    (hcorrect : ∀ c, formulaIn wb.sheets c ≠ none → wb.CorrectAt c)
    (hsteady : wb.SteadyFormulas) (hname : Prefixes name) (hleaves : wb.LeavesName i name)
    (hok : renameSheet i name wb = .ok () wb') :
    ∃ ws, wb.sheets[i]? = some ws ∧
      (∀ key, formulaIn wb'.sheets key =
        (formulaIn wb.sheets key).map (renameInFormula ws.name name)) ∧
      (∀ key text e, formulaIn wb.sheets key = some text → parseFormula text = ⟨some e, []⟩ →
        parseFormula (renameInFormula ws.name name text) =
          ⟨some (e.mapSheets (renamedSheet ws.name name)), []⟩ ∧
        ∀ r ∈ e.references,
          sheetOfReference? wb'.sheets key.sheet (renamedSheet ws.name name r.sheet) =
            sheetOfReference? wb.sheets key.sheet r.sheet) ∧
      ∀ key, valueIn wb'.sheets key = valueIn wb.sheets key := by
  obtain ⟨ws, hws, hcheck, rfl⟩ := renameSheet_eq_ok hok
  have hwell := sheetsWellFormed_withName hw hcheck ws.name
  rw [sheets_rebuild_withName hw hclosed hcorrect hsteady hname hleaves hws hcheck]
  rw [sheets_withName] at hwell ⊢
  refine ⟨ws, hws, formulaIn_renamedSheets, fun key text e htext hread => ⟨?_, fun r hr => ?_⟩,
    valueIn_renamedSheets⟩
  · exact parseFormula_renameInFormula hname hread ws.name
  · refine sheetOfReference?_renamed hw.sheets hwell hws fun s hs hsame => ?_
    have htree : treeIn wb.sheets key = some e := by
      rw [treeIn, htext, Option.bind_some, hread]
    obtain ⟨ws', hws', hname'⟩ := hleaves key e htree r hr s hs hsame
    cases hws.symm.trans hws'
    exact hname'

/-- The only sheet may have every valid name. -/
theorem checkSheetName_of_single (hsheets : wb.sheets = [ws]) (hvalid : ValidSheetName name) :
    wb.checkSheetName name (some 0) = .ok () := by
  unfold Workbook.checkSheetName
  rw [sheetNameFault?_eq_none_iff.mpr hvalid, hsheets]
  rfl

theorem parseFormula_sheetSum : parseFormula "=SUM(sheet1!B1:B2)" =
    ⟨some (.call "SUM" [.range (some "sheet1") ⟨.ofIndices 0 1, .ofIndices 1 1⟩]), []⟩ := by
  with_unfolding_all rfl

/-- A sheet that a sum names in other letters gets a name with an apostrophe. -/
theorem valueIn_renameSheet_quoted :
    ∃ wb', renameSheet 0 "It's" (lone "=SUM(sheet1!B1:B2)") = .ok () wb' ∧
      formulaIn wb'.sheets ⟨0, 0, 0⟩ = some "=SUM('It''s'!B1:B2)" ∧
      parseFormula "=SUM('It''s'!B1:B2)" =
        ⟨some (.call "SUM" [.range (some "It's") ⟨.ofIndices 0 1, .ofIndices 1 1⟩]), []⟩ ∧
      ∀ key, valueIn wb'.sheets key = valueIn (lone "=SUM(sheet1!B1:B2)").sheets key := by
  have hequals : "=SUM(sheet1!B1:B2)".toList.head? = some '=' := by decide
  have hsound := (reached_lone "=SUM(sheet1!B1:B2)").sound
  have hclosed := isUpdating_lone "=SUM(sheet1!B1:B2)"
  have hplain : (lone "=SUM(sheet1!B1:B2)").PlainFormulas := by
    refine plain_lone hequals fun e hroot => ?_
    rw [parseFormula_sheetSum] at hroot
    cases hroot
    refine ⟨by decide, fun call hcall => ?_⟩
    cases List.mem_singleton.mp hcall
    decide
  have hsteady : (lone "=SUM(sheet1!B1:B2)").SteadyFormulas := by
    intro key text htext
    rw [eq_of_formulaIn_lone hequals htext]
    exact ⟨_, parseFormula_sheetSum, by decide⟩
  have hleaves : (lone "=SUM(sheet1!B1:B2)").LeavesName 0 "It's" := by
    intro key e htree r hr s hs hsame
    obtain ⟨text, htext, hread, -⟩ := hsteady.of_treeIn htree
    rw [eq_of_formulaIn_lone hequals htext, parseFormula_sheetSum] at hread
    cases hread
    cases List.mem_singleton.mp hr
    cases hs
    exact absurd hsame (by decide)
  have hname : Prefixes "It's" := .inl ⟨'I', by decide, by decide⟩
  have hvalid : ValidSheetName "It's" := sheetNameFault?_eq_none_iff.mp (by decide)
  obtain ⟨ws, hsheets, hold, -⟩ := sheets_lone _ hequals
  have hws : (lone "=SUM(sheet1!B1:B2)").sheets[0]? = some ws := by rw [hsheets]; rfl
  have hok := renameSheet_ok hws (checkSheetName_of_single hsheets hvalid)
  obtain ⟨ws', hws', hformulas, hread, hvalues⟩ := valueIn_renameSheet hsound.wellFormed hclosed
    (hsound.correct hclosed hplain) hsteady hname hleaves hok
  cases hws.symm.trans hws'
  have htext : formulaIn (lone "=SUM(sheet1!B1:B2)").sheets ⟨0, 0, 0⟩ =
      some "=SUM(sheet1!B1:B2)" := by
    rw [formulaIn_lone hequals, if_pos rfl]
  have hrenamed : renameInFormula "Sheet1" "It's" "=SUM(sheet1!B1:B2)" = "=SUM('It''s'!B1:B2)" := by
    with_unfolding_all rfl
  have htree := (hread _ _ _ htext parseFormula_sheetSum).1
  rw [hold, hrenamed] at htree
  refine ⟨_, hok, ?_, htree, hvalues⟩
  rw [hformulas, htext, Option.map_some, hold, hrenamed]

end Edit

end Gridcalc
