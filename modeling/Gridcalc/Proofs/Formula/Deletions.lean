import Gridcalc.Proofs.Formula.Rectangles
import Gridcalc.Proofs.Formula.Rewriting
import Gridcalc.Proofs.Sheet.Lines

/-!
# References to deleted lines

What a deletion leaves of the references in a formula. A range is lost with the lines between its
corners. It is also lost where its loose upper end closes up with the lines behind the deleted ones
and so gets past a fixed lower end, which stays where it is.

* `LineEdit.DeletesAll`: every line between two corners is deleted;
* `LineEdit.CrossesIn`: the upper corner closes up past the lower one;
* `Fits.corners?_of_deletes`: **the corners of a range after a deletion**;
* `followEdit_of_deletes`: hence **a formula after a deletion that the sheet has allowed**.
-/

namespace Gridcalc

namespace Axis

/-- An end of a range along the axis: its line, and whether it is fixed. -/
def endOf (axis : Axis) (a : CellRef) : Nat × Bool := (axis.line a, axis.isFixed a)

/-- The ends of a range, the lower one first. -/
def ends (axis : Axis) (a b : CellRef) : (Nat × Bool) × (Nat × Bool) :=
  if axis.line b < axis.line a then (axis.endOf b, axis.endOf a) else (axis.endOf a, axis.endOf b)

end Axis

namespace LineEdit

variable {edit : LineEdit} {a b : CellRef}

/-! ## 1. Ranges of which nothing is left -/

/-- Every line between two corners is deleted. -/
def DeletesAll (edit : LineEdit) (a b : CellRef) : Prop :=
  ∀ line, Within (edit.axis.line a) (edit.axis.line b) line → edit.line? line = none

/-- The upper corner is loose and closes up past the lower one, which is fixed. -/
def CrossesIn (edit : LineEdit) (a b : CellRef) : Prop :=
  edit.Crosses (edit.axis.ends a b).1 (edit.axis.ends a b).2

/-- All lines are deleted if the outer ones are. -/
theorem deletesAll_iff : edit.DeletesAll a b ↔
    edit.line? (edit.axis.line a) = none ∧ edit.line? (edit.axis.line b) = none := by
  constructor
  · intro hall
    exact ⟨hall _ ⟨Nat.min_le_left _ _, Nat.le_max_left _ _⟩,
      hall _ ⟨Nat.min_le_right _ _, Nat.le_max_right _ _⟩⟩
  · rintro ⟨ha, hb⟩ line ⟨hlo, hhi⟩
    rw [line?_eq_none_iff] at ha hb ⊢
    exact ⟨ha.1, by omega⟩

instance (edit : LineEdit) (a b : CellRef) : Decidable (edit.DeletesAll a b) :=
  decidable_of_iff' _ deletesAll_iff

instance (edit : LineEdit) (a b : CellRef) : Decidable (edit.CrossesIn a b) :=
  inferInstanceAs (Decidable (edit.Crosses _ _))

/-! ## 2. Ranges of which something is left -/

/-- The corners of a range of which something is left: ends that are deleted go to the nearest lines
    that stay, and loose ends close up. -/
def remaining (edit : LineEdit) (a b : CellRef) : CellRef × CellRef :=
  let low (r : CellRef) := edit.axis.put r (edit.lowEnd (edit.axis.endOf r))
  let high (r : CellRef) := edit.axis.put r (edit.highEnd (edit.axis.endOf r))
  if edit.axis.line b < edit.axis.line a then (high a, low b) else (low a, high b)

theorem Fits.deletes_iff_line? (h : edit.Fits) (hins : edit.inserts = false) (line : Nat) :
    edit.deletes line = true ↔ edit.line? line = none := by
  rw [h.deletes_iff, line?_eq_none_iff]
  exact (and_iff_right hins).symm

/-- **The corners of a range after a deletion.** -/
theorem Fits.corners?_of_deletes (h : edit.Fits) (hins : edit.inserts = false)
    (ha : a.onGrid = true) (hb : b.onGrid = true) : edit.corners? a b =
      if edit.DeletesAll a b ∨ edit.CrossesIn a b then none else some (edit.remaining a b) := by
  have hla := edit.axis.line_lt_of_onGrid ha
  have hlb := edit.axis.line_lt_of_onGrid hb
  unfold corners? CrossesIn Axis.ends remaining
  simp only [deletesAll_iff, ← h.deletes_iff_line? hins]
  by_cases hswap : edit.axis.line b < edit.axis.line a
  · have hspan := @Fits.span?_of_deletes edit h hins (edit.axis.endOf b) (edit.axis.endOf a)
      hswap.le hla
    simp only [if_pos hswap]
    rw [← Axis.endOf, ← Axis.endOf, hspan, if_congr (or_congr_left and_comm) rfl rfl,
      apply_ite (Option.map _)]
    rfl
  · have hspan := @Fits.span?_of_deletes edit h hins (edit.axis.endOf a) (edit.axis.endOf b)
      (Nat.le_of_not_lt hswap) hlb
    simp only [if_neg hswap]
    rw [← Axis.endOf, ← Axis.endOf, hspan, apply_ite (Option.map _)]
    rfl

end LineEdit

/-! ## 3. Formulas -/

section Formulas

open LineEdit

variable {ws ws' : Worksheet} {edit : LineEdit}

/-- **A formula after a deletion that the sheet has allowed.** Wherever it is and whichever sheet it
    belongs to, a range on the edited sheet becomes a reference error if every line between its
    corners is deleted, or if its loose upper corner closes up past its fixed lower one; any other
    range stays a range, between the corners that are left. -/
theorem followEdit_of_deletes (hw : ws.Contained) (h : ws.applyEdit edit = .ok ws')
    (hins : edit.inserts = false) (target : String) (onTarget : Bool) (formula : String) :
    followEdit edit target onTarget formula = mapReferences (fun site =>
      if concerns target onTarget site then
        match site.second with
        | none => some (edit.renderSite site)
        | some second =>
          let a := site.first.address
          let b := second.address
          if edit.DeletesAll a b ∨ edit.CrossesIn a b then some ErrorValue.ref.literal.toList
          else some (site.first.render (edit.remaining a b).1 ++
            ':' :: second.render (edit.remaining a b).2)
      else none) formula := by
  have hfits := Worksheet.fits_of_applyEdit hw h
  refine mapReferences_congr (fun site hsite => ?_) formula
  dsimp only
  split
  · cases hsecond : site.second with
    | none => rfl
    | some second =>
      have hcorners := hfits.corners?_of_deletes hins hsite.first.onGrid
        (hsite.second second hsecond).onGrid
      unfold renderSite
      simp only [hsecond, hcorners]
      split <;> rfl
  · rfl

/-- The first range is not lost with its lines, since none of them is deleted; it is lost because
    its loose end closes up past its fixed one. The second range stays one. -/
theorem followEdit_of_deletes_crossing : ∃ ws ws' : Worksheet,
    ws.applyEdit (.deleteRows 0 3) = .ok ws' ∧
    (∀ line, Within 4 5 line → (deleteRows 0 3).line? line ≠ none) ∧
    followEdit (.deleteRows 0 3) "Sheet1" true "=SUM(A$5:A6)+SUM(B6:$B2)" =
      "=SUM(#REF!)+SUM(B3:$B1)" := by
  have hw := (Worksheet.wellFormed_create "Sheet1" 10 10).contained
  have h := @Worksheet.applyEdit_of_accepts (.create "Sheet1" 10 10) (.deleteRows 0 3) (by decide)
  refine ⟨_, _, h, fun line hline hnone => ?_, ?_⟩
  · have hbehind : 4 ≤ line := hline.1
    have hblock : line < 0 + 3 := (line?_eq_none_iff.mp hnone).2.2
    omega
  · rw [followEdit_of_deletes hw h rfl]
    decide +kernel

end Formulas

end Gridcalc
