import Gridcalc.Proofs.Formula.Following
import Gridcalc.Proofs.Formula.Rectangles

/-!
# Formulas after an insertion that is taken back

What is inserted can be deleted again: lines, addresses, rectangles and the formulas that have
followed the insertion come back.

* `LineEdit.inverse`: the deletion of what was inserted;
* `Fits.address?_of_line?`, `Fits.corners?_of_line?`: references whose lines stay on the grid go
  where their lines go;
* `follow_inverse_follow`: **a reference that has followed both is the old one**;
* `parseFormula_inverse`: the same of the text of a formula, up to its spelling.
-/

namespace Gridcalc

namespace LineEdit

variable {edit : LineEdit} {line moved x y : Nat} {a b : CellRef} {target : String}
  {onTarget : Bool}

/-- The deletion of what was inserted. -/
def inverse (edit : LineEdit) : LineEdit := { edit with inserts := false }

/-! ## 1. Lines and references -/

/-- A line comes back. -/
theorem line?_inverse (hins : edit.inserts = true) (h : edit.line? line = some moved) :
    edit.inverse.line? moved = some line := by
  rw [line?_eq_some, inverse]
  rcases line?_eq_some.mp h with ⟨hlt, rfl⟩ | ⟨hle, -, rfl⟩ | ⟨-, hdel, -⟩
  · exact .inl ⟨hlt, rfl⟩
  · exact .inr (.inr ⟨Nat.add_le_add_right hle _, rfl, (Nat.add_sub_cancel ..).symm⟩)
  · rw [hins] at hdel
    cases hdel

/-- A cell comes back. -/
theorem key?_inverse {target : Nat} {key moved : CellKey} (hins : edit.inserts = true)
    (h : edit.key? target key = some moved) : edit.inverse.key? target moved = some key := by
  rcases key?_eq_some.mp h with ⟨hne, rfl⟩ | ⟨hsheet, hmoved, hcell⟩
  · exact key?_eq_some.mpr (.inl ⟨hne, rfl⟩)
  · refine key?_eq_some.mpr (.inr ⟨hmoved, hsheet, ?_⟩)
    rw [cell?_eq_some] at hcell ⊢
    exact ⟨line?_inverse hins hcell.1, hcell.2.symm⟩

theorem Fits.point?_of_line? (h : edit.Fits) (hline : line < edit.axis.limit)
    (hmoved : edit.line? line = some moved) (hlt : moved < edit.axis.limit) :
    edit.point? line false = some moved := by
  rw [h.point?_eq hline, hmoved, Option.filter_some, decide_eq_true hlt, if_pos rfl]

/-- A loose address goes where its line goes. -/
theorem Fits.address?_of_line? (h : edit.Fits) (ha : a.onGrid = true)
    (hloose : edit.axis.isFixed a = false) (hx : edit.line? (edit.axis.line a) = some x)
    (hlt : x < edit.axis.limit) : edit.address? a = some (edit.axis.put a x) := by
  rw [address?, hloose, h.point?_of_line? (edit.axis.line_lt_of_onGrid ha) hx hlt]
  rfl

/-- Lines that stay keep their order. -/
theorem line?_mono {line line' moved moved' : Nat} (h : edit.line? line = some moved)
    (h' : edit.line? line' = some moved') (hle : line ≤ line') : moved ≤ moved' := by
  rcases line?_eq_some.mp h with ⟨_, _⟩ | ⟨_, e, _⟩ | ⟨_, e, _⟩ <;>
    rcases line?_eq_some.mp h' with ⟨_, _⟩ | ⟨_, e', _⟩ | ⟨_, e', _⟩ <;>
    first | omega | (rw [e] at e'; cases e')

/-- A span between lines that stay goes where they go. -/
theorem Fits.span?_of_line? (h : edit.Fits) {lo hi : Nat} (hle : lo ≤ hi)
    (hhi : hi < edit.axis.limit) (hx : edit.line? lo = some x) (hy : edit.line? hi = some y)
    (hlt : y < edit.axis.limit) : edit.span? (lo, false) (hi, false) = some (x, y) := by
  have hxy := line?_mono hx hy hle
  have hlow := h.point?_of_line? (Nat.lt_of_le_of_lt hle hhi) hx (Nat.lt_of_le_of_lt hxy hlt)
  have hhigh := h.point?_of_line? hhi hy hlt
  unfold span?
  cases hins : edit.inserts with
  | true => simp [hlow, hhigh]
  | false =>
    have hkept : ∀ {line moved}, edit.line? line = some moved → edit.deletes line = false := by
      intro line moved hmoved
      refine Bool.eq_false_iff.mpr fun hdel => ?_
      have hdel := h.deletes_iff.mp hdel
      rcases line?_eq_some.mp hmoved with ⟨_, _⟩ | ⟨_, e, _⟩ | ⟨_, _, _⟩
      · omega
      · rw [hins] at e
        cases e
      · omega
    simp [hlow, hhigh, hkept hx, hkept hy, hxy]

/-- Loose corners on lines that stay go where their lines go. -/
theorem Fits.corners?_of_line? (h : edit.Fits) (ha : a.onGrid = true) (hb : b.onGrid = true)
    (hla : edit.axis.isFixed a = false) (hlb : edit.axis.isFixed b = false)
    (hx : edit.line? (edit.axis.line a) = some x) (hy : edit.line? (edit.axis.line b) = some y)
    (hltx : x < edit.axis.limit) (hlty : y < edit.axis.limit) :
    edit.corners? a b = some (edit.axis.put a x, edit.axis.put b y) := by
  unfold corners?
  dsimp only
  rw [hla, hlb]
  split
  · rw [h.span?_of_line? (by omega) (edit.axis.line_lt_of_onGrid ha) hy hx hltx]
    rfl
  · rw [h.span?_of_line? (by omega) (edit.axis.line_lt_of_onGrid hb) hx hy hlty]
    rfl

/-! ## 2. References that have followed both -/

/-- A corner that an insertion moves to another place of the grid. -/
structure Stays (edit : LineEdit) (a : CellRef) : Prop where
  onGrid : a.onGrid = true
  loose : edit.axis.isFixed a = false
  moved : ∃ x, edit.line? (edit.axis.line a) = some x ∧ x < edit.axis.limit

theorem put_put_line (axis : Axis) (a : CellRef) (n : Nat) :
    axis.put (axis.put a n) (axis.line a) = a := by
  cases axis <;> rfl

/-- A corner that has moved can come back. -/
theorem Stays.inverse (h : edit.Stays a) (hins : edit.inserts = true)
    (hx : edit.line? (edit.axis.line a) = some x) (hlt : x < edit.axis.limit) :
    (edit.axis.put a x).onGrid = true ∧ edit.axis.isFixed (edit.axis.put a x) = false ∧
      edit.inverse.line? (edit.axis.line (edit.axis.put a x)) = some (edit.axis.line a) := by
  refine ⟨Axis.onGrid_put h.onGrid hlt, ?_, ?_⟩
  · rw [← h.loose]
    cases edit.axis <;> rfl
  · rw [Axis.line_put]
    exact line?_inverse hins hx

/-- **A reference that has followed an insertion and its deletion is the old one.** -/
theorem follow_inverse_follow (h : edit.Fits) (hins : edit.inserts = true) {r : Reference}
    (hstays : means target onTarget r.sheet = true → ∀ a ∈ r.corners, edit.Stays a) :
    (edit.follow target onTarget r).mapReferences (edit.inverse.follow target onTarget) =
      r.toExpr := by
  have hinverse : edit.inverse.Fits := h
  cases hmeans : means target onTarget r.sheet with
  | false =>
    cases r <;>
    · simp only [Reference.sheet] at hmeans
      simp [follow, hmeans, Expr.mapReferences, Reference.toExpr]
  | true =>
    have hstays := hstays hmeans
    cases r with
    | cell sheet a =>
      have ha := hstays a List.mem_cons_self
      obtain ⟨x, hx, hlt⟩ := ha.moved
      obtain ⟨hgrid, hloose, hback⟩ := ha.inverse hins hx hlt
      have hthere := h.address?_of_line? ha.onGrid ha.loose hx hlt
      have hreturn := hinverse.address?_of_line? hgrid hloose hback
        (edit.axis.line_lt_of_onGrid ha.onGrid)
      have hput : edit.inverse.axis.put (edit.axis.put a x) (edit.axis.line a) = a :=
        put_put_line edit.axis a x
      rw [hput] at hreturn
      simp only [Reference.sheet] at hmeans
      simp [follow, hmeans, hthere, hreturn, Expr.mapReferences, Reference.toExpr]
    | range sheet r =>
      have ha := hstays r.start List.mem_cons_self
      have hb := hstays r.stop (List.mem_cons_of_mem _ List.mem_cons_self)
      obtain ⟨x, hx, hltx⟩ := ha.moved
      obtain ⟨y, hy, hlty⟩ := hb.moved
      obtain ⟨hgrid, hloose, hback⟩ := ha.inverse hins hx hltx
      obtain ⟨hgrid', hloose', hback'⟩ := hb.inverse hins hy hlty
      have hthere := h.corners?_of_line? ha.onGrid hb.onGrid ha.loose hb.loose hx hy hltx hlty
      have hreturn := hinverse.corners?_of_line? hgrid hgrid' hloose hloose' hback hback'
        (edit.axis.line_lt_of_onGrid ha.onGrid) (edit.axis.line_lt_of_onGrid hb.onGrid)
      have hput : ∀ a n, edit.inverse.axis.put (edit.axis.put a n) (edit.axis.line a) = a :=
        put_put_line edit.axis
      rw [hput, hput] at hreturn
      simp only [Reference.sheet] at hmeans
      simp [follow, hmeans, hthere, hreturn, Expr.mapReferences, Reference.toExpr]

end LineEdit

/-! ## 3. Formulas that have followed both -/

section Formulas

variable {edit : LineEdit} {formula : String} {e : Expr}

/-- No colon gets behind a parenthesis when a formula follows an edit. -/
theorem noGroupCorner_followEdit (h : edit.Fits) (target : String) (onTarget : Bool)
    (hread : parseFormula formula = ⟨some e, []⟩)
    (hplain : NoGroupCorner (kindsOf formula.toList)) :
    NoGroupCorner (kindsOf (followEdit edit target onTarget formula).toList) :=
  noGroupCorner_mapReferences (h.replaces target onTarget) (LineEdit.sealed_place target onTarget
    edit) hread hplain

/-- **A formula that has followed an insertion and its deletion is read as before.** -/
theorem parseFormula_inverse (h : edit.Fits) (hins : edit.inserts = true) (target : String)
    (onTarget : Bool) (hread : parseFormula formula = ⟨some e, []⟩)
    (hplain : NoGroupCorner (kindsOf formula.toList))
    (hstays : ∀ r ∈ e.references, LineEdit.means target onTarget r.sheet = true →
      ∀ a ∈ r.corners, edit.Stays a) :
    parseFormula (followEdit edit.inverse target onTarget
      (followEdit edit target onTarget formula)) = ⟨some e, []⟩ := by
  have hinverse : edit.inverse.Fits := h
  have hthere := parseFormula_followEdit h target onTarget hread hplain
  have hback := parseFormula_followEdit hinverse target onTarget hthere
    (noGroupCorner_followEdit h target onTarget hread hplain)
  rw [Expr.mapReferences_mapReferences, Expr.mapReferences_eq_self] at hback
  · exact hback
  · exact fun r hr => LineEdit.follow_inverse_follow h hins (hstays r hr)

/-- With a colon directly behind a closing parenthesis it is not: the corner behind it, of a range on
    another sheet, is taken for a reference to the edited one, and is deleted. -/
theorem followEdit_inverse_grouped :
    parseFormula "=SUM((Data!A1):B$2)" =
      ⟨some (.call "SUM" [.range (some "Data") ⟨.ofIndices 0 0, ⟨1, 1, true, false⟩⟩]), []⟩ ∧
    followEdit (LineEdit.insertRows 1 1).inverse "Sheet1" true
      (followEdit (.insertRows 1 1) "Sheet1" true "=SUM((Data!A1):B$2)") =
        "=SUM((Data!A1):#REF!)" ∧
    (parseFormula "=SUM((Data!A1):#REF!)").diagnostics ≠ [] := by
  refine ⟨?_, by decide +kernel, by decide +kernel⟩
  with_unfolding_all rfl

end Formulas

end Gridcalc
