import Gridcalc.Proofs.Evaluation.Moved
import Gridcalc.Proofs.Sheet.Lines
import Gridcalc.Proofs.Workbook.Batching
import Gridcalc.Proofs.Workbook.Undoing

/-!
# Inserted and deleted lines

Inserting and deleting rows and columns moves cells, rewrites the texts of formulas, and reads and
evaluates all of them anew. Formulas of operators alone come out with the values they had.

* `Workbook.SimpleFormulas`, `Workbook.LooseFormulas`: what the stored formulas have to be like;
* `Workbook.Shifted`: a workbook in which the cells of one sheet have moved, and formulas with them;
* `Edit.shifted_editLines`: that is what an insertion or deletion makes of a workbook at rest;
* `Shifted.mem_readIn_iff`, `Shifted.onCycle_iff`: the dependency graph moves along, circles
  included;
* `Edit.valueIn_editLines`: **values survive insertions and deletions**.
-/

namespace Gridcalc

open Relation

/-! ## 1. Formulas that follow -/

/-- A formula of operators alone reads its references and nothing else. -/
theorem Expr.Simple.plain {e : Expr} (h : e.Simple) : e.Plain := by
  refine ⟨?_, fun call hcall => ?_⟩
  · rw [Expr.isVolatile, h.functionNames_eq, List.any_nil]
  · induction h with
    | binary op _ _ ihl ihr =>
      rw [Expr.calls, List.mem_append] at hcall
      exact hcall.elim ihl ihr
    | _ => exact absurd hcall List.not_mem_nil

/-- What a cell shows for a formula of operators alone. -/
theorem Expr.Simple.evaluateFormula_eq {e : Expr} (h : e.Simple) (ctx : Context) :
    evaluateFormula ctx (some e) = (evaluate ctx e).map shownResult := by
  cases h <;> rfl

namespace Workbook

/-- Every stored formula is read without a diagnostic, and consists of literals, references to
    single cells and operators. -/
def SimpleFormulas (wb : Workbook) : Prop :=
  ∀ key text, formulaIn wb.sheets key = some text →
    ∃ e, parseFormula text = ⟨some e, []⟩ ∧ e.Simple

/-- Every reference to the edited sheet is loose along the axis of the edit. -/
def LooseFormulas (wb : Workbook) (target : Nat) (edit : LineEdit) : Prop :=
  ∀ key e, treeIn wb.sheets key = some e → edit.LooseIn target wb.sheets key.sheet e

/-- No formula that stays reads a cell that is deleted. -/
def KeepsReads (wb : Workbook) (target : Nat) (edit : LineEdit) : Prop :=
  ∀ key p, p ∈ readIn wb.sheets key → edit.key? target key ≠ none → edit.key? target p ≠ none

theorem SimpleFormulas.of_treeIn {wb : Workbook} (h : wb.SimpleFormulas) {key : CellKey} {e : Expr}
    (htree : treeIn wb.sheets key = some e) :
    ∃ text, formulaIn wb.sheets key = some text ∧ parseFormula text = ⟨some e, []⟩ ∧ e.Simple := by
  obtain ⟨text, htext, hroot⟩ := Option.bind_eq_some_iff.mp htree
  obtain ⟨e', hread, hs⟩ := h key text htext
  rw [hread] at hroot
  cases hroot
  exact ⟨text, htext, hread, hs⟩

theorem SimpleFormulas.plain {wb : Workbook} (h : wb.SimpleFormulas) : wb.PlainFormulas := by
  intro key text e htext hroot
  obtain ⟨_, -, -, hs⟩ := h.of_treeIn (Option.bind_eq_some_iff.mpr ⟨text, htext, hroot⟩)
  exact hs.plain

end Workbook

/-! ## 2. Names -/

section Names

variable {sheets : List Worksheet} {target home : Nat} {ws : Worksheet}

/-- Where names differ, a sheet is the one that a reference means exactly if it has the name. -/
theorem means_iff (h : SheetsWellFormed sheets) (hws : sheets[target]? = some ws)
    (sheet : Option String) : LineEdit.means ws.name (home = target) sheet = true ↔
      sheetOfReference? sheets home sheet = some target := by
  obtain ⟨hlen, hget⟩ := List.getElem?_eq_some_iff.mp hws
  cases sheet with
  | none =>
    simp only [LineEdit.means, sheetOfReference?, decide_eq_true_eq]
    constructor
    · rintro rfl
      rw [if_pos hlen]
    · intro h
      split at h
      · exact Option.some.inj h
      · cases h
  | some name =>
    simp only [LineEdit.means, sheetOfReference?, sheetNamed?, List.findIdx?_eq_some_iff_getElem]
    rw [Text.sameIgnoringCase_comm]
    constructor
    · intro hname
      refine ⟨hlen, hget ▸ hname, fun j hj hother => ?_⟩
      -- a sheet before it with the same name would have the name of the sheet
      have hdiffer := List.pairwise_iff_getElem.mp h.names_differ j target (by omega) hlen hj
      rw [hget, Text.sameIgnoringCase_trans hother (Text.sameIgnoringCase_comm .. ▸ hname)]
        at hdiffer
      cases hdiffer
    · rintro ⟨_, hname, -⟩
      exact hget ▸ hname

/-- Cells of well-formed sheets lie on the largest grid. -/
theorem onGrid_of_isInside (h : ∀ ws ∈ sheets, ws.WellFormed) {key : CellKey}
    (hinside : isInside sheets key = true) : (CellRef.ofIndices key.row key.col).onGrid = true := by
  obtain ⟨ws, hws, hin⟩ := (Option.any_eq_true _ _).mp hinside
  have hws := h ws (List.mem_of_getElem? hws)
  obtain ⟨hrow, hcol⟩ := Worksheet.inBounds_iff.mp hin
  exact CellRef.onGrid_iff.mpr
    ⟨Nat.lt_of_lt_of_le hrow hws.rows_le, Nat.lt_of_lt_of_le hcol hws.cols_le⟩

end Names

/-! ## 3. Shifted workbooks -/

namespace Workbook

/-- A workbook in which the cells of one sheet have moved, and the formulas everywhere have
    followed. -/
structure Shifted (edit : LineEdit) (target : Nat) (name : String) (wb wb' : Workbook) : Prop where
  moves : edit.Moves target name wb.sheets wb'.sheets
  formulaIn_eq : ∀ {key moved}, edit.key? target key = some moved → formulaIn wb'.sheets moved =
    (formulaIn wb.sheets key).map (followEdit edit name (key.sheet = target))
  literal : ∀ {key moved}, edit.key? target key = some moved → formulaIn wb.sheets key = none →
    valueIn wb'.sheets moved = valueIn wb.sheets key
  origin : ∀ {moved}, formulaIn wb'.sheets moved ≠ none → ∃ key, edit.key? target key = some moved
  sound : wb'.Sound
  closed : ∀ i, wb'.isUpdating i = false

end Workbook

namespace Edit

open Workbook

variable {wb wb' : Workbook} {i : Nat} {edit : LineEdit} {ws ws' : Worksheet} {key moved : CellKey}

/-- What is stored once formulas have followed. -/
theorem cellIn_followedSheets (sheets : List Worksheet) (i : Nat) (ws : Worksheet)
    (follow : Nat → String → String) (key : CellKey) :
    cellIn (followedSheets sheets i ws follow) key =
      (cellIn (sheets.set i ws) key).map fun cell => cell.relabelled (follow key.sheet) := by
  unfold cellIn followedSheets
  rw [List.getElem?_mapIdx]
  cases (sheets.set i ws)[key.sheet]? with
  | none => rfl
  | some sheet => exact sheet.get?_mapFormulas _ _ _

/-- Formulas that follow change no frame. -/
theorem sameFrames_followedSheets (sheets : List Worksheet) (i : Nat) (ws : Worksheet)
    (follow : Nat → String → String) :
    SameFrames (followedSheets sheets i ws follow) (sheets.set i ws) := by
  refine sameFrames_iff.mpr fun j => ?_
  rw [followedSheets, List.getElem?_mapIdx, Option.map_map]
  rfl

section Lines

variable (hw : wb.WellFormed) (hws : wb.sheets[i]? = some ws) (hedit : ws.applyEdit edit = .ok ws')

include hw hws hedit

/-- What is stored is stored at its new place. -/
theorem cellIn_set_of_key? (ht : ws.store.Tight) (hkey : edit.key? i key = some moved) :
    cellIn (wb.sheets.set i ws') moved = cellIn wb.sheets key := by
  obtain ⟨hlen, -⟩ := List.getElem?_eq_some_iff.mp hws
  rw [cellIn_set]
  rcases LineEdit.key?_eq_some.mp hkey with ⟨hne, rfl⟩ | ⟨hsheet, hmoved, hcell⟩
  · rw [if_neg fun e => hne e.1.symm]
  · rw [if_pos ⟨hmoved.symm, hlen⟩,
      Worksheet.get?_applyEdit (hw.getElem? hws).contained hedit ht hcell, cellIn, hsheet, hws,
      Option.bind_some]

/-- Everything that is stored has been stored before. -/
theorem exists_of_cellIn_set {cell : Cell}
    (hcell : cellIn (wb.sheets.set i ws') moved = some cell) :
    ∃ key, edit.key? i key = some moved := by
  rw [cellIn_set] at hcell
  split at hcell
  · rename_i hsheet
    obtain ⟨row, col, hplace, -⟩ :=
      Worksheet.exists_of_get?_applyEdit (hw.getElem? hws).contained hedit hcell
    exact ⟨⟨i, row, col⟩, LineEdit.key?_eq_some.mpr (.inr ⟨rfl, hsheet.1.symm, hplace⟩)⟩
  · rename_i hsheet
    obtain ⟨hlen, -⟩ := List.getElem?_eq_some_iff.mp hws
    exact ⟨moved, LineEdit.key?_eq_some.mpr (.inl ⟨fun e => hsheet ⟨e.symm, hlen⟩, rfl⟩)⟩

theorem isInside_set_of_key? (hkey : edit.key? i key = some moved) :
    isInside (wb.sheets.set i ws') moved = isInside wb.sheets key := by
  obtain ⟨hlen, -⟩ := List.getElem?_eq_some_iff.mp hws
  unfold isInside
  rcases LineEdit.key?_eq_some.mp hkey with ⟨hne, rfl⟩ | ⟨hsheet, hmoved, hcell⟩
  · rw [List.getElem?_set_ne (Ne.symm hne)]
  · rw [hmoved, List.getElem?_set_self hlen, hsheet, hws, Option.any_some, Option.any_some,
      Worksheet.inBounds_applyEdit (hw.getElem? hws).contained hedit hcell]

/-- **An insertion or deletion shifts cells**: the sheets before it, and after formulas have
    followed. -/
theorem moves_withLines : edit.Moves i ws.name wb.sheets (withLines wb i edit ws ws').sheets := by
  have hwell := sheetsWellFormed_withLines hw hws hedit
  have hname := Worksheet.name_applyEdit (hw.getElem? hws) hedit
  refine ⟨Worksheet.fits_of_applyEdit (hw.getElem? hws).contained hedit,
    fun home sheet => means_iff hw.sheets hws sheet, fun home sheet => ?_, fun hkey => ?_,
    fun hinside => ?_⟩
  · rw [sheets_withLines]
    exact sheetOfReference?_eq_of_names (map_name_followedSheets hws hname _) home sheet
  · rw [sheets_withLines, isInside_eq_of_outlines (sameFrames_followedSheets _ _ _ _).map_outline_eq]
    exact isInside_set_of_key? hw hws hedit hkey
  · exact onGrid_of_isInside hwell.each hinside

/-- What is stored is stored at its new place, and its formula has followed. -/
theorem cellIn_withLines (ht : ws.store.Tight) (hkey : edit.key? i key = some moved) :
    cellIn (withLines wb i edit ws ws').sheets moved = (cellIn wb.sheets key).map fun cell =>
      cell.relabelled (followEdit edit ws.name (key.sheet = i)) := by
  rw [sheets_withLines, cellIn_followedSheets, cellIn_set_of_key? hw hws hedit ht hkey,
    LineEdit.sheet_of_key? hkey]

end Lines

/-- An insertion or deletion that the sheet allows goes through. -/
theorem editLines_ok (hws : wb.sheets[i]? = some ws) (hedit : ws.applyEdit edit = .ok ws') :
    editLines i edit wb = .ok () (withLines wb i edit ws ws').rebuild := by
  have hlift : lift (ws.applyEdit edit) wb = .ok ws' wb := hedit ▸ lift_ok ws' wb
  exact (bind_ok (getSheet_ok hws)).trans (bind_ok hlift)

/-- **What an insertion or deletion makes of a workbook at rest**: cells have moved, formulas have
    followed, and everything has been evaluated. -/
theorem shifted_editLines (h : wb.AtRest) (hok : editLines i edit wb = .ok () wb') :
    ∃ ws, wb.sheets[i]? = some ws ∧ Shifted edit i ws.name wb wb' := by
  have hclosed := (kept_editLines hok).closed h.closed
  obtain ⟨ws, ws', hws, hedit, rfl⟩ := editLines_eq_ok hok
  have hw := h.wellFormed
  have hwell := sheetsWellFormed_withLines hw hws hedit
  have ht := h.consistent.tight ws (List.mem_of_getElem? hws)
  have hsame := sameInputs_rebuild hwell
  have hmoves := moves_withLines hw hws hedit
  have hcell := fun {key moved} => @cellIn_withLines wb i edit ws ws' key moved hw hws hedit ht
  have hformula : ∀ {key moved}, edit.key? i key = some moved →
      formulaIn (withLines wb i edit ws ws').sheets moved =
        (formulaIn wb.sheets key).map (followEdit edit ws.name (key.sheet = i)) := by
    intro key moved hkey
    rw [formulaIn, hcell hkey, formulaIn]
    cases cellIn wb.sheets key <;> rfl
  refine ⟨ws, hws, ⟨hmoves.of_outlines hsame.frames.map_outline_eq, fun hkey => ?_,
    fun hkey hliteral => ?_, fun hstored => ?_, ?_, hclosed⟩⟩
  · rw [hsame.formulaIn_eq, hformula hkey]
  · rw [hsame.valueIn_eq_of_literal (by rw [hsame.formulaIn_eq, hformula hkey, hliteral]; rfl),
      valueIn, hcell hkey, valueIn, Option.map_map]
    rfl
  · rw [hsame.formulaIn_eq, formulaIn] at hstored
    obtain ⟨text, hstored⟩ := Option.ne_none_iff_exists'.mp hstored
    obtain ⟨cell, hstored, -⟩ := Option.bind_eq_some_iff.mp hstored
    rw [sheets_withLines, cellIn_followedSheets] at hstored
    obtain ⟨cell', hstored, -⟩ := Option.map_eq_some_iff.mp hstored
    exact exists_of_cellIn_set hw hws hedit hstored
  · exact sound_rebuild hwell (tight_withLines h.wellFormed h.consistent.tight hws hedit)

end Edit

/-! ## 5. Shifted values -/

/-- A path is followed step by step. -/
theorem exists_transGen {α β : Type} {r : α → α → Prop} {r' : β → β → Prop} {R : α → β → Prop}
    (step : ∀ a a', R a a' → ∀ b, r a b → ∃ b', R b b' ∧ r' a' b') {a b : α} {a' : β}
    (hpath : TransGen r a b) (h : R a a') : ∃ b', R b b' ∧ TransGen r' a' b' := by
  induction hpath with
  | single hab =>
    obtain ⟨b', hb, hab'⟩ := step _ _ h _ hab
    exact ⟨b', hb, .single hab'⟩
  | tail _ hbc ih =>
    obtain ⟨b', hb, hpath'⟩ := ih
    obtain ⟨c', hc, hbc'⟩ := step _ _ hb _ hbc
    exact ⟨c', hc, hpath'.tail hbc'⟩

namespace Workbook.Shifted

variable {wb wb' : Workbook} {edit : LineEdit} {target : Nat} {name : String}
  {key moved a b a' b' : CellKey}

section Formulas

variable (h : Shifted edit target name wb wb') (hsimple : wb.SimpleFormulas)

include h hsimple

/-- A formula that has followed is read as its tree with the references moved. -/
theorem treeIn_eq (hkey : edit.key? target key = some moved) : treeIn wb'.sheets moved =
    (treeIn wb.sheets key).map (Expr.mapReferences (edit.follow name (key.sheet = target))) := by
  rw [treeIn, h.formulaIn_eq hkey, treeIn]
  cases htext : formulaIn wb.sheets key with
  | none => rfl
  | some text =>
    obtain ⟨e, hread, hs⟩ := hsimple key text htext
    rw [Option.map_some, Option.bind_some, Option.bind_some,
      parseFormula_followEdit_of_simple h.moves.fits name _ hread hs, hread]
    rfl

/-- The formulas stay simple. -/
theorem simpleFormulas : wb'.SimpleFormulas := by
  intro moved text' htext'
  obtain ⟨key, hkey⟩ := h.origin (by rw [htext']; exact Option.some_ne_none _)
  rw [h.formulaIn_eq hkey] at htext'
  obtain ⟨text, htext, rfl⟩ := Option.map_eq_some_iff.mp htext'
  obtain ⟨e, hread, hs⟩ := hsimple key text htext
  exact ⟨_, parseFormula_followEdit_of_simple h.moves.fits name _ hread hs,
    hs.mapReferences fun sheet a => edit.simple_follow name _ sheet a⟩

variable (hloose : wb.LooseFormulas target edit)

include hloose

/-- **A formula reads the cells that it has read**, where they have gone. -/
theorem mem_readIn_iff (ha : edit.key? target a = some a') :
    b' ∈ readIn wb'.sheets a' ↔ ∃ b ∈ readIn wb.sheets a, edit.key? target b = some b' := by
  rw [readIn, h.treeIn_eq hsimple ha, readIn, LineEdit.sheet_of_key? ha]
  cases htree : treeIn wb.sheets a with
  | none => simp
  | some e =>
    obtain ⟨_, -, hread, hs⟩ := hsimple.of_treeIn htree
    exact h.moves.mem_precedentsOf_follow_of_simple hs
      (fun _ _ hr => onGrid_of_mem_references hread hr List.mem_cons_self) (hloose a e htree)

variable (hkept : wb.KeepsReads target edit) (hw : wb.WellFormed)

include hkept hw

/-- **Circles stay circles**, and nothing else becomes one. -/
theorem onCycle_iff (hkey : edit.key? target key = some moved) :
    wb'.calcState.graph.OnCycle moved ↔ wb.calcState.graph.OnCycle key := by
  have hw' := h.sound.wellFormed
  constructor
  · intro hcycle
    have hstep : ∀ a' a, edit.key? target a = some a' → ∀ b', wb'.calcState.graph.Reads a' b' →
        ∃ b, edit.key? target b = some b' ∧ wb.calcState.graph.Reads a b := by
      intro a' a ha b' hread
      obtain ⟨b, hb, hmoved⟩ :=
        (h.mem_readIn_iff hsimple hloose ha).mp ((hw'.known a').reads_iff.mp hread)
      exact ⟨b, hmoved, (hw.known a).reads_iff.mpr hb⟩
    obtain ⟨b, hb, hpath⟩ := exists_transGen hstep hcycle hkey
    rwa [LineEdit.key?_injective hb hkey] at hpath
  · intro hcycle
    have hstep : ∀ a a', edit.key? target a = some a' → ∀ b, wb.calcState.graph.Reads a b →
        ∃ b', edit.key? target b = some b' ∧ wb'.calcState.graph.Reads a' b' := by
      intro a a' ha b hread
      have hb := (hw.known a).reads_iff.mp hread
      obtain ⟨b', hmoved⟩ := Option.ne_none_iff_exists'.mp
        (hkept a b hb (by rw [ha]; exact Option.some_ne_none _))
      exact ⟨b', hmoved, (hw'.known a').reads_iff.mpr
        ((h.mem_readIn_iff hsimple hloose ha).mpr ⟨b, hb, hmoved⟩)⟩
    obtain ⟨b', hb, hpath⟩ := exists_transGen hstep hcycle hkey
    rwa [← Option.some.inj (hkey.symm.trans hb)] at hpath

end Formulas

/-- **Values move along.** -/
theorem valueIn_eq (h : Shifted edit target name wb wb') (hrest : wb.AtRest)
    (hsimple : wb.SimpleFormulas) (hloose : wb.LooseFormulas target edit)
    (hkept : wb.KeepsReads target edit) (hkey : edit.key? target key = some moved) :
    valueIn wb'.sheets moved = valueIn wb.sheets key := by
  have hw := hrest.wellFormed
  by_cases hformula : formulaIn wb.sheets key = none
  · exact h.literal hkey hformula
  have hcorrect := hrest.sound.correct hrest.closed hsimple.plain
  have hcorrect' := h.sound.correct h.closed (h.simpleFormulas hsimple).plain
  -- along the schedule of all formulas before the edit
  refine (Graph.schedule_isSchedule hrest.consistent.neat.mirrored wb.formulaSet).induction
    (P := fun c => ∀ c', edit.key? target c = some c' →
      valueIn wb'.sheets c' = valueIn wb.sheets c) (fun c hc hread c' hmoved => ?_)
    (mem_formulaSet.mpr hformula) moved hkey
  have hc := mem_formulaSet.mp hc
  have hc' : formulaIn wb'.sheets c' ≠ none := by
    rw [h.formulaIn_eq hmoved]
    exact fun e => hc (Option.map_eq_none_iff.mp e)
  have hcycle := h.onCycle_iff hsimple hloose hkept hw hmoved
  by_cases hon : wb.calcState.graph.OnCycle c
  · rw [(hcorrect c hc).1 hon, (hcorrect' c' hc').1 (hcycle.mpr hon)]
  rw [(hcorrect c hc).2 hon wb.ambient,
    (hcorrect' c' hc').2 (fun e => hon (hcycle.mp e)) wb.ambient, h.treeIn_eq hsimple hmoved]
  cases htree : treeIn wb.sheets c with
  | none => rfl
  | some e =>
    obtain ⟨_, -, hreads, hs⟩ := hsimple.of_treeIn htree
    have hvalues : ∀ p ∈ precedentsOf wb.sheets c.sheet e,
        ∃ p', edit.key? target p = some p' ∧ valueIn wb'.sheets p' = valueIn wb.sheets p := by
      intro p hp
      have hp : p ∈ readIn wb.sheets c := mem_readIn.mpr ⟨e, htree, hp⟩
      obtain ⟨p', hp'⟩ := Option.ne_none_iff_exists'.mp
        (hkept c p hp (by rw [hmoved]; exact Option.some_ne_none _))
      refine ⟨p', hp', ?_⟩
      by_cases hpf : formulaIn wb.sheets p = none
      · exact h.literal hp' hpf
      · refine hread (fun hwithin => hon ?_) p (mem_formulaSet.mpr hpf)
          ((hw.known c).reads_iff.mpr hp) p' hp'
        exact TransGen.mono (fun _ _ hstep => hstep.2.2) c c hwithin
    have hevaluate : evaluate (placeOf wb'.sheets c' wb.ambient)
        (e.mapReferences (edit.follow name (c.sheet = target))) =
          evaluate (placeOf wb.sheets c wb.ambient) e :=
      h.moves.evaluate_follow hs (fun _ _ hr => onGrid_of_mem_references hreads hr List.mem_cons_self)
        (hloose c e htree) ⟨rfl, rfl⟩ ⟨rfl, LineEdit.sheet_of_key? hmoved⟩ hvalues
    rw [Option.map_some, formulaValue, formulaValue, hs.evaluateFormula_eq,
      (hs.mapReferences fun sheet a => edit.simple_follow name _ sheet a).evaluateFormula_eq,
      hevaluate]

end Workbook.Shifted

/-! ## 6. Insertions and deletions -/

namespace Edit

open Workbook

/-- **Values survive insertions and deletions.** In a workbook at rest with simple formulas, whose
    references to the edited sheet are loose along the axis of the edit, an insertion or deletion
    that goes through leaves every formula cell that stays with its value, at its new place and with
    its references moved; circles, and references outside of their sheet, are no exception. An
    insertion keeps every cell. For a deletion no formula that stays may read a deleted cell. -/
theorem valueIn_editLines {wb wb' : Workbook} {i : Nat} {edit : LineEdit} (h : wb.AtRest)
    (hsimple : wb.SimpleFormulas) (hloose : wb.LooseFormulas i edit)
    (hkept : edit.inserts = false → wb.KeepsReads i edit)
    (hok : editLines i edit wb = .ok () wb') :
    ∃ ws, wb.sheets[i]? = some ws ∧ ∀ key text, formulaIn wb.sheets key = some text →
      (edit.inserts = true → ∃ moved, edit.key? i key = some moved) ∧
      ∀ moved, edit.key? i key = some moved →
        formulaIn wb'.sheets moved = some (followEdit edit ws.name (key.sheet = i) text) ∧
        valueIn wb'.sheets moved = valueIn wb.sheets key := by
  obtain ⟨ws, hws, hshifted⟩ := shifted_editLines h hok
  have hkept : wb.KeepsReads i edit := by
    cases hinserts : edit.inserts with
    | false => exact hkept hinserts
    | true =>
      intro key p _ _
      obtain ⟨moved, hmoved⟩ := LineEdit.key?_of_inserts hinserts i p
      rw [hmoved]
      exact Option.some_ne_none _
  refine ⟨ws, hws, fun key text htext => ⟨fun hinserts => ?_, fun moved hkey => ⟨?_, ?_⟩⟩⟩
  · exact LineEdit.key?_of_inserts hinserts i key
  · rw [hshifted.formulaIn_eq hkey, htext, Option.map_some]
  · exact hshifted.valueIn_eq h hsimple hloose hkept hkey

theorem parseFormula_selfReading :
    parseFormula "=A1" = ⟨some (.cell none (.ofIndices 0 0)), []⟩ := by
  with_unfolding_all rfl

/-- A workbook of one formula has one sheet, of the size of a new one. -/
theorem sheets_lone (text : String) (h : text.toList.head? = some '=') :
    ∃ ws, (lone text).sheets = [ws] ∧ ws.name = "Sheet1" ∧ ws.rowCount = 1000 ∧
      ws.colCount = 26 := by
  have hframes : SameFrames (lone text).sheets (create {} ⟨default, fun _ => 0⟩).sheets := by
    have hin : (create {} ⟨default, fun _ => 0⟩).InGrid ⟨0, 0, 0⟩ := ⟨_, rfl, by decide⟩
    rw [lone_eq h]
    exact sameFrames_writeContents (wellFormed_create _ _) hin _
  obtain ⟨ws, hws⟩ := List.length_eq_one_iff.mp hframes.length_eq
  rw [hws] at hframes
  have hframe : ws.frame = (Worksheet.create "Sheet1" 1000 26).frame := (List.cons.inj hframes).1
  exact ⟨ws, hws, congrArg Worksheet.name hframe, congrArg Worksheet.rowCount hframe,
    congrArg Worksheet.colCount hframe⟩

/-- The sheet of a cell that refers to itself has the size of a new one. -/
theorem sheet_selfReading : ∃ ws, selfReading.sheets[0]? = some ws ∧ ws.name = "Sheet1" ∧
    ws.rowCount = 1000 ∧ ws.colCount = 26 := by
  obtain ⟨ws, hws, hsize⟩ := sheets_lone "=A1" (by decide)
  exact ⟨ws, congrArg (fun sheets : List Worksheet => sheets[0]?) hws, hsize⟩

theorem eq_of_formulaIn_selfReading {key : CellKey} {text : String}
    (h : formulaIn selfReading.sheets key = some text) : text = "=A1" :=
  eq_of_formulaIn_lone (by decide) h

theorem exists_insertRows_selfReading :
    ∃ wb', editLines 0 (.insertRows 0 1) selfReading = .ok () wb' := by
  obtain ⟨ws, hws, -, hrows, -⟩ := sheet_selfReading
  have hedit : ws.applyEdit (.insertRows 0 1) =
      .ok { ws with store := ws.store.insertRows 0 1, rowCount := ws.rowCount + 1 } := by
    show ws.insertRows 0 1 = _
    rw [Worksheet.insertRows, if_neg (Nat.not_lt_zero _), if_neg (by rw [hrows]; decide)]
  exact ⟨_, editLines_ok hws hedit⟩

/-- A row inserted above a cell that refers to itself: the circle moves down, and shows the same. -/
theorem valueIn_insertRows_selfReading :
    ∃ wb', editLines 0 (.insertRows 0 1) selfReading = .ok () wb' ∧
      formulaIn wb'.sheets ⟨0, 1, 0⟩ = some (followEdit (.insertRows 0 1) "Sheet1" true "=A1") ∧
      valueIn wb'.sheets ⟨0, 1, 0⟩ = valueIn selfReading.sheets ⟨0, 0, 0⟩ := by
  have hrest : selfReading.AtRest :=
    reached_selfReading.sound.atRest isUpdating_selfReading plain_selfReading
  have hsimple : selfReading.SimpleFormulas := by
    intro key text h
    rw [eq_of_formulaIn_selfReading h]
    exact ⟨_, parseFormula_selfReading, .cell _ _⟩
  have hloose : selfReading.LooseFormulas 0 (.insertRows 0 1) := by
    intro key e htree sheet a hr _
    obtain ⟨text, h, hread, -⟩ := hsimple.of_treeIn htree
    rw [eq_of_formulaIn_selfReading h, parseFormula_selfReading] at hread
    cases hread
    cases List.mem_singleton.mp hr
    rfl
  obtain ⟨ws, hws, hname, -, -⟩ := sheet_selfReading
  obtain ⟨wb', hok⟩ := exists_insertRows_selfReading
  obtain ⟨ws', hws', hall⟩ := valueIn_editLines hrest hsimple hloose (fun h => by cases h) hok
  obtain rfl : ws = ws' := Option.some.inj (hws.symm.trans hws')
  have hmoved := (hall ⟨0, 0, 0⟩ "=A1" (by rw [formulaIn_selfReading, if_pos rfl])).2 ⟨0, 1, 0⟩ rfl
  rw [hname] at hmoved
  exact ⟨wb', hok, hmoved⟩

end Edit

end Gridcalc
