import Gridcalc.Proofs.Formula.Reverting
import Gridcalc.Proofs.Workbook.LineEdits

/-!
# Insertions that are taken back

Lines are inserted and deleted again. Formulas are rewritten twice on the way, on all sheets.

* `Worksheet.exists_applyEdit_inverse`, `Worksheet.frame_applyEdit_inverse`: the deletion goes
  through, and the sheet has its size and its hidden rows back;
* `Edit.inputIn_editLines`: what an edit makes of literals, styles and formulas;
* `Workbook.InsideFormulas`: what the stored formulas have to be like;
* `Edit.delete_inserted`: **deleting what was inserted restores the workbook**, up to the spelling
  of its formulas.
-/

namespace Gridcalc

/-! ## 1. Sheets -/

theorem LineEdit.row?_of_inserts {edit : LineEdit} (h : edit.inserts = true) (row : Nat) :
    ∃ moved, edit.row? row = some moved := by
  unfold row?
  split
  · exact line?_of_inserts h row
  · exact ⟨row, rfl⟩

/-- A row comes back, as other lines do. -/
theorem LineEdit.row?_inverse {edit : LineEdit} {row moved : Nat} (hins : edit.inserts = true)
    (h : edit.row? row = some moved) : edit.inverse.row? moved = some row := by
  have hsame : edit.inverse.axis = edit.axis := rfl
  unfold row? at h ⊢
  cases haxis : edit.axis <;> simp only [hsame, haxis] at h ⊢
  · exact line?_inverse hins h
  · exact h.symm

namespace Worksheet

variable {ws ws' ws₁ ws₂ : Worksheet} {edit : LineEdit}

/-- What was inserted into a sheet can be deleted, also after its cells have changed. -/
theorem exists_applyEdit_inverse (hw : ws.WellFormed) (hins : edit.inserts = true)
    (hcount : 0 < edit.count) (h : ws.applyEdit edit = .ok ws') (hframe : ws₁.frame = ws'.frame) :
    ∃ ws₂, ws₁.applyEdit edit.inverse = .ok ws₂ := by
  obtain ⟨haccepts, -, -⟩ := applyEdit_eq_ok hw.contained h
  have halong : ws₁.lineCount edit.axis = ws.lineCount edit.axis + edit.count := by
    rw [(frame_eq_iff.mp hframe).2.1, lineCount_applyEdit hw.contained h, if_pos rfl,
      LineEdit.resized, if_pos hins]
  have hpos := hw.contained.lineCount_pos edit.axis
  have hstart : edit.start ≤ ws.lineCount edit.axis := by
    rw [LineEdit.Accepts, if_pos hins] at haccepts
    exact haccepts.1
  exact exists_applyEdit_of_deletes rfl hcount
    (show edit.start + edit.count ≤ ws₁.lineCount edit.axis by omega)
    (show edit.count < ws₁.lineCount edit.axis by omega)

/-- Name, size and hidden rows are then as before. -/
theorem frame_applyEdit_inverse (hw : ws.WellFormed) (hins : edit.inserts = true)
    (h : ws.applyEdit edit = .ok ws') (hw₁ : ws₁.WellFormed) (hframe : ws₁.frame = ws'.frame)
    (h₂ : ws₁.applyEdit edit.inverse = .ok ws₂) : ws₂.frame = ws.frame := by
  obtain ⟨hname, hsize, hhidden⟩ := frame_eq_iff.mp hframe
  refine frame_eq_iff.mpr ⟨?_, fun axis => ?_, fun row => ?_⟩
  · rw [name_applyEdit hw₁ h₂, hname, name_applyEdit hw h]
  · have hsame : edit.inverse.axis = edit.axis := rfl
    have hback : ∀ n, edit.inverse.resized (edit.resized n) = n := by
      intro n
      rw [LineEdit.resized, LineEdit.resized, if_pos hins]
      exact Nat.add_sub_cancel n edit.count
    rw [lineCount_applyEdit hw₁.contained h₂, hsize, lineCount_applyEdit hw.contained h, hsame]
    split
    · exact hback _
    · rfl
  · -- a row that is hidden has gone to its new place and has come back from there
    rw [mem_hidden_applyEdit hw₁.contained h₂]
    simp only [hhidden, mem_hidden_applyEdit hw.contained h]
    constructor
    · rintro ⟨moved, hrow, old, hmoved, hold⟩
      rw [LineEdit.row?_inverse hins hmoved, Option.some.injEq] at hrow
      exact hrow ▸ hold
    · intro hrow
      obtain ⟨moved, hmoved⟩ := LineEdit.row?_of_inserts hins row
      exact ⟨moved, LineEdit.row?_inverse hins hmoved, row, hmoved, hrow⟩

end Worksheet

/-! ## 2. Cells -/

/-- The same style, and the same literal or a formula that is read as before. -/
structure Cell.ReadsAlike (cell cell' : Cell) : Prop where
  style : cell'.style = cell.style
  literal : cell.formula = none → cell' = cell
  formula : ∀ text, cell.formula = some text →
    ∃ text', cell'.formula = some text' ∧ parseFormula text' = parseFormula text

/-- A formula rewritten twice. -/
theorem Cell.relabelled_relabelled (cell : Cell) (relabel relabel' : String → String) :
    (cell.relabelled relabel).relabelled relabel' =
      cell.relabelled fun text => relabel' (relabel text) := by
  obtain ⟨formula, value, style⟩ := cell
  cases formula <;> rfl

/-- Cells with the same input but for the text of the formula. -/
theorem Cell.readsAlike_of_input {cell cell' : Cell} {relabel : String → String}
    (h : cell'.input = cell.input.relabelled relabel)
    (hread : ∀ text, cell.formula = some text → parseFormula (relabel text) = parseFormula text) :
    cell.ReadsAlike cell' := by
  obtain ⟨formula, value, style⟩ := cell
  obtain ⟨formula', value', style'⟩ := cell'
  cases formula with
  | none =>
    cases formula' with
    | none => cases h; exact ⟨rfl, fun _ => rfl, fun _ e => (nomatch e)⟩
    | some text' => cases h
  | some text =>
    cases formula' with
    | none => cases h
    | some text' =>
      cases h
      refine ⟨rfl, fun e => (nomatch e), fun text e => ?_⟩
      cases e
      exact ⟨_, rfl, hread _ rfl⟩

/-- Positions with the same input but for the text of the formula. -/
theorem readsAlike_of_inputIn {sheets sheets' : List Worksheet} {key : CellKey}
    {relabel : String → String}
    (h : inputIn sheets' key = (inputIn sheets key).map fun cell => cell.relabelled relabel)
    (hread : ∀ text, formulaIn sheets key = some text →
      parseFormula (relabel text) = parseFormula text) :
    Option.Rel Cell.ReadsAlike (cellIn sheets key) (cellIn sheets' key) := by
  rw [inputIn, inputIn, Option.map_map] at h
  cases hcell : cellIn sheets key with
  | none =>
    rw [hcell, Option.map_none, Option.map_eq_none_iff] at h
    rw [h]
    exact .none
  | some cell =>
    rw [hcell, Option.map_some] at h
    obtain ⟨cell', hcell', hinput⟩ := Option.map_eq_some_iff.mp h
    rw [hcell']
    refine .some (Cell.readsAlike_of_input hinput fun text htext => hread text ?_)
    rw [formulaIn, hcell, Option.bind_some, htext]

/-! ## 3. Workbooks -/

namespace Workbook

/-- Every stored formula is read without diagnostics and has no colon directly behind a closing
    parenthesis, and its references to sheet `target` are loose along the axis and have their
    corners inside of that sheet. -/
def InsideFormulas (wb : Workbook) (target : Nat) (axis : Axis) : Prop :=
  ∀ key text, formulaIn wb.sheets key = some text → ∃ e, parseFormula text = ⟨some e, []⟩ ∧
    NoGroupCorner (kindsOf text.toList) ∧ ∀ r ∈ e.references,
      sheetOfReference? wb.sheets key.sheet r.sheet = some target → ∀ a ∈ r.corners,
        axis.isFixed a = false ∧ isInside wb.sheets ⟨target, a.row, a.col⟩ = true

end Workbook

namespace Edit

open Workbook

variable {wb wb₁ : Workbook} {i : Nat} {edit : LineEdit} {ws ws' : Worksheet} {key moved : CellKey}

section Once

variable (hw : wb.WellFormed) (ht : ∀ ws ∈ wb.sheets, ws.store.Tight)
  (hws : wb.sheets[i]? = some ws) (hedit : ws.applyEdit edit = .ok ws')

include hw hws hedit

/-- Names, sizes and hidden rows after an edit. -/
theorem sameFrames_editLines :
    SameFrames (withLines wb i edit ws ws').rebuild.sheets (wb.sheets.set i ws') := by
  have hsame := sameInputs_rebuild (sheetsWellFormed_withLines hw hws hedit)
  refine Eq.trans hsame.frames ?_
  rw [sheets_withLines]
  exact sameFrames_followedSheets _ _ _ _

include ht

/-- **Literals, styles and formulas after an edit**: they have moved, and formulas have followed. -/
theorem inputIn_editLines (hkey : edit.key? i key = some moved) :
    inputIn (withLines wb i edit ws ws').rebuild.sheets moved =
      (inputIn wb.sheets key).map fun cell =>
        cell.relabelled (followEdit edit ws.name (key.sheet = i)) := by
  have hsame := sameInputs_rebuild (sheetsWellFormed_withLines hw hws hedit)
  have hcell := cellIn_withLines hw hws hedit (ht ws (List.mem_of_getElem? hws)) hkey
  rw [hsame.inputs, inputIn, hcell, inputIn, Option.map_map, Option.map_map]
  exact congrFun (congrArg _ (funext fun cell => cell.input_relabelled _)) _

end Once

/-- A formula comes back, however it is written. -/
theorem parseFormula_follow_inverse {text : String} (hw : wb.WellFormed)
    (hws : wb.sheets[i]? = some ws) (hedit : ws.applyEdit edit = .ok ws')
    (hins : edit.inserts = true) (hinside : wb.InsideFormulas i edit.axis)
    (htext : formulaIn wb.sheets key = some text) :
    parseFormula (followEdit edit.inverse ws.name (key.sheet = i)
      (followEdit edit ws.name (key.sheet = i) text)) = parseFormula text := by
  obtain ⟨e, hread, hplain, hcorners⟩ := hinside key text htext
  have hwell := (hw.getElem? hws).contained
  obtain ⟨haccepts, -, -⟩ := Worksheet.applyEdit_eq_ok hwell hedit
  rw [hread]
  refine parseFormula_inverse (Worksheet.fits_of_applyEdit hwell hedit) hins ws.name _ hread hplain
    fun r hr hmeans a ha => ?_
  obtain ⟨hloose, hin⟩ := hcorners r hr ((means_iff hw.sheets hws r.sheet).mp hmeans) a ha
  obtain ⟨x, hx⟩ := LineEdit.line?_of_inserts hins (edit.axis.line a)
  have hline : edit.axis.line a < ws.lineCount edit.axis := by
    rw [isInside, hws, Option.any_some] at hin
    obtain ⟨hrow, hcol⟩ := Worksheet.inBounds_iff.mp hin
    cases edit.axis
    · exact hrow
    · exact hcol
  refine ⟨onGrid_of_mem_references hread hr ha, hloose, x, hx, ?_⟩
  exact Nat.lt_of_lt_of_le ((haccepts.lt_iff hx).mpr hline)
    (haccepts.resized_le (hwell.lineCount_le edit.axis))

/-- **Deleting what was inserted restores the workbook.** Some lines are inserted into sheet `i` of a
    well-formed workbook whose stores keep no empty rows. If each formula is read without
    diagnostics, has no colon directly behind a closing parenthesis, and refers to the edited sheet
    by loose corners inside of it only, then the same lines can be deleted; and names, sizes and
    hidden rows, every literal and style at its position, and every formula up to its spelling, are
    on all sheets as before. -/
theorem delete_inserted {axis : Axis} {start count : Nat} (hw : wb.WellFormed)
    (ht : ∀ ws ∈ wb.sheets, ws.store.Tight) (hinside : wb.InsideFormulas i axis)
    (hcount : 0 < count) (hok : editLines i ⟨axis, true, start, count⟩ wb = .ok () wb₁) :
    ∃ wb₂, editLines i ⟨axis, false, start, count⟩ wb₁ = .ok () wb₂ ∧
      SameFrames wb₂.sheets wb.sheets ∧
      ∀ key, Option.Rel Cell.ReadsAlike (cellIn wb.sheets key) (cellIn wb₂.sheets key) := by
  let edit : LineEdit := ⟨axis, true, start, count⟩
  obtain ⟨ws, ws', hws, hedit, rfl⟩ := editLines_eq_ok hok
  obtain ⟨hlen, hget⟩ := List.getElem?_eq_some_iff.mp hws
  have hsound := sound_rebuild (sheetsWellFormed_withLines hw hws hedit)
    (tight_withLines hw ht hws hedit)
  have hw₁ := hsound.wellFormed
  have ht₁ := hsound.consistent.tight
  have hframes₁ := sameFrames_editLines hw hws hedit
  obtain ⟨ws₁, hws₁, hframe₁⟩ := hframes₁.symm.getElem? (List.getElem?_set_self hlen)
  have hname : ws₁.name = ws.name := by
    rw [← (Worksheet.frame_eq_iff.mp hframe₁).1, Worksheet.name_applyEdit (hw.getElem? hws) hedit]
  obtain ⟨ws₂, hedit₂⟩ := Worksheet.exists_applyEdit_inverse (hw.getElem? hws) rfl hcount hedit
    hframe₁.symm
  have hframe₂ := Worksheet.frame_applyEdit_inverse (hw.getElem? hws) rfl hedit
    (hw₁.getElem? hws₁) hframe₁.symm hedit₂
  refine ⟨_, editLines_ok hws₁ hedit₂, ?_, fun key => ?_⟩
  · refine Eq.trans (sameFrames_editLines hw₁ hws₁ hedit₂) ?_
    rw [List.map_set, hframes₁, List.map_set, List.set_set, hframe₂, ← List.map_set, ← hget,
      List.set_getElem_self]
  · obtain ⟨moved, hmoved⟩ : ∃ moved, edit.key? i key = some moved :=
      LineEdit.key?_of_inserts rfl i key
    have hthere := inputIn_editLines hw ht hws hedit hmoved
    have hback := inputIn_editLines hw₁ ht₁ hws₁ hedit₂ (LineEdit.key?_inverse rfl hmoved)
    rw [hthere, LineEdit.sheet_of_key? hmoved, hname, Option.map_map] at hback
    have hboth : inputIn (withLines (withLines wb i edit ws ws').rebuild i edit.inverse ws₁
          ws₂).rebuild.sheets key =
        (inputIn wb.sheets key).map fun cell => cell.relabelled fun text =>
          followEdit edit.inverse ws.name (key.sheet = i)
            (followEdit edit ws.name (key.sheet = i) text) := by
      rw [hback]
      refine congrFun (congrArg _ (funext fun cell => ?_)) _
      exact cell.relabelled_relabelled _ _
    exact readsAlike_of_inputIn hboth fun text htext =>
      parseFormula_follow_inverse hw hws hedit rfl hinside htext

/-- A row inserted above a cell that refers to itself, and deleted: the formula has gone down and
    has come back. -/
theorem delete_inserted_selfReading :
    ∃ wb₁ wb₂, editLines 0 (.insertRows 0 1) selfReading = .ok () wb₁ ∧
      editLines 0 (.deleteRows 0 1) wb₁ = .ok () wb₂ ∧
      ∃ text, formulaIn wb₂.sheets ⟨0, 0, 0⟩ = some text ∧
        parseFormula text = parseFormula "=A1" := by
  have hrest : selfReading.AtRest :=
    reached_selfReading.sound.atRest isUpdating_selfReading plain_selfReading
  have hinside : selfReading.InsideFormulas 0 .row := by
    intro key text h
    rw [eq_of_formulaIn_selfReading h]
    refine ⟨_, parseFormula_selfReading, ?_, fun r hr _ a ha => ?_⟩
    · have hkinds : kindsOf "=A1".toList = [.equals, .cell none (.ofIndices 0 0)] := by
        with_unfolding_all rfl
      rw [hkinds]
      unfold NoGroupCorner
      decide
    · cases List.mem_singleton.mp hr
      cases List.mem_singleton.mp ha
      obtain ⟨ws, hws, -, hrows, hcols⟩ := sheet_selfReading
      refine ⟨rfl, ?_⟩
      rw [isInside, hws, Option.any_some, Worksheet.inBounds_iff, hrows, hcols]
      decide
  obtain ⟨wb₁, hok⟩ := exists_insertRows_selfReading
  obtain ⟨wb₂, hok₂, -, hcells⟩ := delete_inserted hrest.wellFormed hrest.consistent.tight hinside
    Nat.zero_lt_one hok
  refine ⟨wb₁, wb₂, hok, hok₂, ?_⟩
  have hformula : formulaIn selfReading.sheets ⟨0, 0, 0⟩ = some "=A1" := by
    rw [formulaIn_selfReading, if_pos rfl]
  obtain ⟨cell, hcell, htext⟩ := Option.bind_eq_some_iff.mp hformula
  have hback := hcells ⟨0, 0, 0⟩
  rw [hcell] at hback
  cases hcell₂ : cellIn wb₂.sheets ⟨0, 0, 0⟩ with
  | none => rw [hcell₂] at hback; cases hback
  | some cell₂ =>
    rw [hcell₂] at hback
    cases hback with
    | some halike =>
      obtain ⟨text, htext₂, hread⟩ := halike.formula _ htext
      exact ⟨text, by rw [formulaIn, hcell₂, Option.bind_some, htext₂], hread⟩

end Edit

end Gridcalc
