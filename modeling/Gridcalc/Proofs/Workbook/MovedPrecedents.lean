import Gridcalc.Proofs.Workbook.LineEdits

/-!
# What formulas read after insertions and deletions

References are cut at the edge of their sheet when they are read, and at the edge of the largest
grid when they follow an edit. The two agree.

* `Edit.moves_editLines`: the sheets before and after an insertion or deletion;
* `Edit.mem_precedentsOf_editLines`: **formulas read the cells that they have read**, where they
  have gone, and the cells that an insertion opens up inside of their ranges.
-/

namespace Gridcalc

namespace Edit

open Workbook

variable {wb wb' : Workbook} {i : Nat} {edit : LineEdit}

/-- The cells of the edited sheet have moved, also after everything was evaluated. -/
theorem moves_editLines (hw : wb.WellFormed) (hok : editLines i edit wb = .ok () wb') :
    ∃ ws, wb.sheets[i]? = some ws ∧ edit.Moves i ws.name wb.sheets wb'.sheets := by
  obtain ⟨ws, ws', hws, hedit, rfl⟩ := editLines_eq_ok hok
  have hsame := sameInputs_rebuild (sheetsWellFormed_withLines hw hws hedit)
  exact ⟨ws, hws, (moves_withLines hw hws hedit).of_outlines hsame.frames.map_outline_eq⟩

/-- **Formulas read the cells that they have read**, where they have gone. After an insertion or
    deletion of lines on sheet `i` that goes through, a formula on any sheet that is read without
    diagnostics, has no colon directly behind a closing parenthesis, and whose references to the
    edited sheet are loose along the axis, follows to a formula that reads the old cells that are
    left, at their new places, and of each range that an insertion tears apart the cells that were
    opened up inside; and no others. Corners may stand in any order, outside of their sheet, or be
    pushed off the grid. -/
theorem mem_precedentsOf_editLines (hw : wb.WellFormed) (hok : editLines i edit wb = .ok () wb')
    (home : Nat) {formula : String} {e : Expr} (hread : parseFormula formula = ⟨some e, []⟩)
    (hplain : NoGroupCorner (kindsOf formula.toList))
    (hloose : ∀ r ∈ e.references, sheetOfReference? wb.sheets home r.sheet = some i →
      ∀ a ∈ r.corners, edit.axis.isFixed a = false) :
    ∃ ws e', wb.sheets[i]? = some ws ∧
      parseFormula (followEdit edit ws.name (home = i) formula) = ⟨some e', []⟩ ∧
      ∀ q, q ∈ precedentsOf wb'.sheets home e' ↔
        (∃ p ∈ precedentsOf wb.sheets home e, edit.key? i p = some q) ∨
        (q.sheet = i ∧ isInside wb'.sheets q = true ∧ ∃ r ∈ e.references,
          sheetOfReference? wb.sheets home r.sheet = some i ∧
            edit.OpensIn r.area q.row q.col) := by
  obtain ⟨ws, hws, hmoves⟩ := moves_editLines hw hok
  refine ⟨ws, _, hws, parseFormula_followEdit hmoves.fits ws.name _ hread hplain, fun q => ?_⟩
  exact hmoves.mem_precedentsOf_follow (fun r hr a ha => onGrid_of_mem_references hread hr ha)
    hloose

theorem parseFormula_reversed : parseFormula "=SUM(B3:A1)+Z1048576" =
    ⟨some (.binary .add (.call "SUM" [.range none ⟨.ofIndices 2 1, .ofIndices 0 0⟩])
      (.cell none (.ofIndices 1048575 25))), []⟩ := by
  with_unfolding_all rfl

theorem noGroupCorner_reversed :
    NoGroupCorner (kindsOf "=SUM(B3:A1)+Z1048576".toList) := by
  have hkinds : kindsOf "=SUM(B3:A1)+Z1048576".toList = [.equals, .name "SUM", .openParen,
      .cell none (.ofIndices 2 1), .colon, .cell none (.ofIndices 0 0), .closeParen, .plus,
      .cell none (.ofIndices 1048575 25)] := by
    with_unfolding_all rfl
  rw [hkinds]
  unfold NoGroupCorner
  decide

/-- Two rows inserted into a range whose lower corner comes first, next to a reference to the last
    row of the grid: `B3` has gone down to `B5`, and the new cell `A2` is read. -/
theorem mem_precedentsOf_insertRows_reversed :
    ∃ wb' e', editLines 0 (.insertRows 1 2) (create {} ⟨default, fun _ => 0⟩) = .ok () wb' ∧
      parseFormula (followEdit (.insertRows 1 2) "Sheet1" true "=SUM(B3:A1)+Z1048576") =
        ⟨some e', []⟩ ∧
      ⟨0, 4, 1⟩ ∈ precedentsOf wb'.sheets 0 e' ∧ ⟨0, 1, 0⟩ ∈ precedentsOf wb'.sheets 0 e' := by
  let new : Workbook := create {} ⟨default, fun _ => 0⟩
  let sheet : Worksheet := .create "Sheet1" 1000 26
  have hw : new.WellFormed := wellFormed_create _ _
  have hsheet : new.sheets[0]? = some sheet := rfl
  obtain ⟨ws', hedit⟩ : ∃ ws', sheet.applyEdit (.insertRows 1 2) = .ok ws' := ⟨_, rfl⟩
  have hok := editLines_ok hsheet hedit
  obtain ⟨ws, e', hws, hfollow, hmem⟩ := mem_precedentsOf_editLines hw hok 0 parseFormula_reversed
    noGroupCorner_reversed (by decide)
  cases hsheet.symm.trans hws
  have hopens : (LineEdit.insertRows 1 2).OpensIn ⟨.ofIndices 2 1, .ofIndices 0 0⟩ 1 0 := by
    unfold LineEdit.OpensIn LineEdit.Opens Within
    decide
  have hinside : isInside (withLines new 0 (.insertRows 1 2) sheet ws').rebuild.sheets ⟨0, 1, 0⟩ =
      true := by
    have hsame := sameInputs_rebuild (sheetsWellFormed_withLines hw hsheet hedit)
    rw [isInside_eq_of_outlines hsame.frames.map_outline_eq]
    cases hedit
    rfl
  exact ⟨_, e', hok, hfollow, (hmem _).mpr (.inl ⟨⟨0, 2, 1⟩, by decide, rfl⟩),
    (hmem _).mpr (.inr ⟨rfl, hinside, _, List.mem_cons_self, rfl, hopens⟩)⟩

end Edit

end Gridcalc
