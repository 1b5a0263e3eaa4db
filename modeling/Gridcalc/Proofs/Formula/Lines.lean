import Gridcalc.Dependency.Graph
import Gridcalc.Formula.Relocate
import Gridcalc.Proofs.Address.Spelling

/-!
# Where inserted and deleted lines move cells

* `LineEdit.line?`, `LineEdit.cell?`, `LineEdit.key?`: where a line, a position of the edited sheet
  and a cell of the workbook go if the grid has no end;
* `LineEdit.Fits`: an edit that lies on the largest grid;
* `Fits.point?_eq`: then a loose line of a reference goes where the line itself goes, as far as the
  grid reaches;
* `Fits.onGrid_address?`, `Fits.onGrid_corners?`: what is moved stays on the grid.
-/

namespace Gridcalc

section Lines

variable {axis : Axis} {edit : LineEdit} {a b : CellRef} {line : Nat}

/-! ## 1. Lines of addresses -/

theorem Axis.line_lt_of_onGrid (axis : Axis) (h : a.onGrid = true) : axis.line a < axis.limit := by
  obtain ⟨hrow, hcol⟩ := CellRef.onGrid_iff.mp h
  cases axis
  · exact hrow
  · exact hcol

theorem Axis.onGrid_put (h : a.onGrid = true) (hline : line < axis.limit) :
    (axis.put a line).onGrid = true := by
  obtain ⟨hrow, hcol⟩ := CellRef.onGrid_iff.mp h
  cases axis
  · exact CellRef.onGrid_iff.mpr ⟨hline, hcol⟩
  · exact CellRef.onGrid_iff.mpr ⟨hrow, hline⟩

/-- Even twice as many lines as the grid has can be counted. -/
theorem Axis.limit_lt_wordLimit (axis : Axis) : 2 * axis.limit < LineEdit.wordLimit := by
  cases axis <;> decide

namespace LineEdit

/-! ## 2. Lines of a grid without end -/

/-- Where a line goes on a grid without end; none if it is deleted. -/
def line? (edit : LineEdit) (line : Nat) : Option Nat :=
  if line < edit.start then some line
  else if edit.inserts then some (line + edit.count)
  else if edit.start + edit.count ≤ line then some (line - edit.count)
  else none

/-- Where a position of the edited sheet goes. -/
def cell? (edit : LineEdit) (row col : Nat) : Option (Nat × Nat) :=
  match edit.axis with
  | .row => (edit.line? row).map fun row => (row, col)
  | .column => (edit.line? col).map fun col => (row, col)

/-- Where a cell of the workbook goes, if sheet `target` is edited. -/
def key? (edit : LineEdit) (target : Nat) (key : CellKey) : Option CellKey :=
  if key.sheet = target then
    (edit.cell? key.row key.col).map fun (row, col) => ⟨target, row, col⟩
  else some key

/-- An insertion loses no line. -/
theorem line?_of_inserts (h : edit.inserts = true) (line : Nat) :
    ∃ moved, edit.line? line = some moved := by
  unfold line?
  rw [h]
  split <;> exact ⟨_, rfl⟩

theorem line?_eq_some {moved : Nat} : edit.line? line = some moved ↔
    (line < edit.start ∧ moved = line) ∨
      (edit.start ≤ line ∧ edit.inserts = true ∧ moved = line + edit.count) ∨
      (edit.start + edit.count ≤ line ∧ edit.inserts = false ∧ moved = line - edit.count) := by
  unfold line?
  cases edit.inserts with
  | true =>
    simp only [if_true, Bool.true_eq_false, false_and, and_false, or_false, true_and]
    split <;> rw [Option.some.injEq] <;> omega
  | false =>
    simp only [Bool.false_eq_true, if_false, false_and, and_false, false_or, true_and]
    split
    · rw [Option.some.injEq]
      omega
    · split
      · rw [Option.some.injEq]
        omega
      · simp only [reduceCtorEq, false_iff]
        omega

/-- Only the deleted lines go nowhere. -/
theorem line?_eq_none_iff : edit.line? line = none ↔
    edit.inserts = false ∧ edit.start ≤ line ∧ line < edit.start + edit.count := by
  unfold line?
  cases edit.inserts with
  | true =>
    simp only [if_true, Bool.true_eq_false, false_and, iff_false]
    split <;> exact Option.some_ne_none _
  | false =>
    simp only [Bool.false_eq_true, if_false, true_and]
    split
    · simp only [reduceCtorEq, false_iff]
      omega
    · split
      · simp only [reduceCtorEq, false_iff]
        omega
      · simp only [true_iff]
        omega

/-- No two lines meet. -/
theorem line?_injective {line line' moved : Nat} (h : edit.line? line = some moved)
    (h' : edit.line? line' = some moved) : line = line' := by
  rcases line?_eq_some.mp h with ⟨_, _⟩ | ⟨_, e, _⟩ | ⟨_, e, _⟩ <;>
    rcases line?_eq_some.mp h' with ⟨_, _⟩ | ⟨_, e', _⟩ | ⟨_, e', _⟩ <;>
    first | omega | (rw [e] at e'; cases e')

theorem cell?_injective {row col row' col' : Nat} {moved : Nat × Nat}
    (h : edit.cell? row col = some moved) (h' : edit.cell? row' col' = some moved) :
    row = row' ∧ col = col' := by
  unfold cell? at h h'
  cases haxis : edit.axis <;> simp only [haxis] at h h' <;>
  · obtain ⟨line, hline, rfl⟩ := Option.map_eq_some_iff.mp h
    obtain ⟨line', hline', e⟩ := Option.map_eq_some_iff.mp h'
    cases e
    exact ⟨by first | rfl | exact line?_injective hline hline',
      by first | rfl | exact line?_injective hline hline'⟩

theorem cell?_of_inserts (h : edit.inserts = true) (row col : Nat) :
    ∃ moved, edit.cell? row col = some moved := by
  unfold cell?
  split
  · obtain ⟨line, hline⟩ := line?_of_inserts h row
    exact ⟨_, by rw [hline]; rfl⟩
  · obtain ⟨line, hline⟩ := line?_of_inserts h col
    exact ⟨_, by rw [hline]; rfl⟩

section Keys

variable {target : Nat} {key key' moved : CellKey}

theorem key?_eq_some : edit.key? target key = some moved ↔
    (key.sheet ≠ target ∧ moved = key) ∨
      (key.sheet = target ∧ moved.sheet = target ∧
        edit.cell? key.row key.col = some (moved.row, moved.col)) := by
  unfold key?
  split
  · rename_i hsheet
    simp only [hsheet, ne_eq, not_true_eq_false, false_and, false_or, true_and,
      Option.map_eq_some_iff]
    constructor
    · rintro ⟨⟨row, col⟩, hcell, rfl⟩
      exact ⟨rfl, hcell⟩
    · rintro ⟨rfl, hcell⟩
      exact ⟨_, hcell, rfl⟩
  · rename_i hsheet
    simp [hsheet, eq_comm]

/-- A cell stays on its sheet. -/
theorem sheet_of_key? (h : edit.key? target key = some moved) : moved.sheet = key.sheet := by
  rcases key?_eq_some.mp h with ⟨-, rfl⟩ | ⟨hsheet, hmoved, -⟩
  · rfl
  · rw [hsheet, hmoved]

/-- No two cells meet. -/
theorem key?_injective (h : edit.key? target key = some moved)
    (h' : edit.key? target key' = some moved) : key = key' := by
  have hsheet : key.sheet = key'.sheet := (sheet_of_key? h).symm.trans (sheet_of_key? h')
  rcases key?_eq_some.mp h with ⟨hne, rfl⟩ | ⟨htarget, -, hcell⟩
  · rcases key?_eq_some.mp h' with ⟨-, rfl⟩ | ⟨htarget', -, -⟩
    · rfl
    · exact absurd (hsheet.trans htarget') hne
  · rcases key?_eq_some.mp h' with ⟨hne', -⟩ | ⟨-, -, hcell'⟩
    · exact absurd (hsheet.symm.trans htarget) hne'
    · obtain ⟨hrow, hcol⟩ := cell?_injective hcell hcell'
      cases key
      cases key'
      simp_all

/-- An insertion loses no cell. -/
theorem key?_of_inserts (h : edit.inserts = true) (target : Nat) (key : CellKey) :
    ∃ moved, edit.key? target key = some moved := by
  unfold key?
  split
  · obtain ⟨moved, hcell⟩ := cell?_of_inserts h key.row key.col
    exact ⟨_, by rw [hcell]; rfl⟩
  · exact ⟨key, rfl⟩

end Keys

/-! ## 3. Lines of references -/

/-- The lines that are inserted or deleted lie on the largest grid. -/
def Fits (edit : LineEdit) : Prop := edit.start + edit.count ≤ edit.axis.limit

theorem Fits.mod_eq (h : edit.Fits) :
    (edit.start + edit.count) % wordLimit = edit.start + edit.count :=
  Nat.mod_eq_of_lt (by
    have hfits : edit.start + edit.count ≤ edit.axis.limit := h
    have hword := edit.axis.limit_lt_wordLimit
    omega)

theorem Fits.deletes_iff (h : edit.Fits) :
    edit.deletes line = true ↔ edit.start ≤ line ∧ line < edit.start + edit.count := by
  have hfits : edit.start + edit.count ≤ edit.axis.limit := h
  have hword := edit.axis.limit_lt_wordLimit
  simp only [deletes, Bool.and_eq_true, decide_eq_true_eq]
  omega

/-- **A loose line of a reference goes where the line goes**, as far as the grid reaches. -/
theorem Fits.point?_eq (h : edit.Fits) (hline : line < edit.axis.limit) :
    edit.point? line false = (edit.line? line).filter (· < edit.axis.limit) := by
  have hfits : edit.start + edit.count ≤ edit.axis.limit := h
  have hword := edit.axis.limit_lt_wordLimit
  unfold point? line?
  cases edit.inserts with
  | true =>
    have hmod : (line + edit.count) % wordLimit = line + edit.count :=
      Nat.mod_eq_of_lt (by omega)
    simp only [if_true, Bool.false_or, decide_eq_true_eq, hmod]
    split
    · rw [Option.filter_some, decide_eq_true hline, if_pos rfl]
    · rw [Option.filter_some]
      simp only [decide_eq_true_eq]
  | false =>
    have hback : edit.start + edit.count ≤ line →
        (line + wordLimit - edit.count) % wordLimit = line - edit.count := by
      intro hbehind
      have hsum : line + wordLimit - edit.count = (line - edit.count) + wordLimit := by omega
      rw [hsum, Nat.add_mod_right, Nat.mod_eq_of_lt (by omega)]
    simp only [Bool.false_eq_true, if_false, Bool.not_false, Bool.true_and, decide_eq_true_eq,
      h.mod_eq, h.deletes_iff]
    by_cases hbefore : line < edit.start
    · rw [if_neg (by omega), if_neg (by omega), if_pos hbefore, Option.filter_some,
        decide_eq_true hline, if_pos rfl]
    · rw [if_neg hbefore]
      by_cases hbehind : edit.start + edit.count ≤ line
      · rw [if_neg (by omega), if_pos hbehind, if_pos hbehind, hback hbehind, Option.filter_some,
          decide_eq_true (by omega), if_pos rfl]
      · rw [if_pos (by omega), if_neg hbehind, Option.filter_none]

/-- A fixed line stays where it is, if it stays at all. -/
theorem point?_fixed {moved : Nat} (h : edit.point? line true = some moved) : moved = line := by
  unfold point? at h
  simp only [Bool.true_or, if_true, Bool.not_true, Bool.false_and, Bool.false_eq_true,
    if_false] at h
  split at h
  · exact (Option.some.inj h).symm
  · split at h
    · cases h
    · exact (Option.some.inj h).symm

/-- Where an end of a reference is after a deletion that leaves it: a loose one closes up with the
    lines behind the deleted ones. -/
def closedUp (edit : LineEdit) (place : Nat × Bool) : Nat :=
  if place.1 < edit.start ∨ place.2 = true then place.1 else place.1 - edit.count

/-- A line of a reference under a deletion. -/
theorem Fits.point?_of_deletes (h : edit.Fits) (hins : edit.inserts = false) {place : Nat × Bool}
    (hline : place.1 < edit.axis.limit) : edit.point? place.1 place.2 =
      if edit.deletes place.1 then none else some (edit.closedUp place) := by
  obtain ⟨line, fixed⟩ := place
  cases fixed with
  | true =>
    unfold point? closedUp
    simp only [hins, Bool.false_eq_true, if_false, Bool.not_true, Bool.false_and, or_true, if_true]
  | false =>
    have hdel := @Fits.deletes_iff edit line h
    dsimp only at hline ⊢
    rw [h.point?_eq hline, line?, closedUp, if_neg (Bool.eq_false_iff.mp hins)]
    simp only [hdel, Bool.false_eq_true, or_false]
    split
    · rw [if_neg (by omega), Option.filter_some, decide_eq_true hline, if_pos rfl]
    · split
      · rw [if_neg (by omega), Option.filter_some, decide_eq_true (by omega), if_pos rfl]
      · rw [if_pos (by omega), Option.filter_none]

/-- The lower end of a span after a deletion: one that is deleted goes behind the deleted lines. -/
def lowEnd (edit : LineEdit) (lo : Nat × Bool) : Nat :=
  if edit.deletes lo.1 then edit.start else edit.closedUp lo

/-- The upper end: one that is deleted goes in front of the deleted lines. -/
def highEnd (edit : LineEdit) (hi : Nat × Bool) : Nat :=
  if edit.deletes hi.1 then edit.start - 1 else edit.closedUp hi

/-- A loose upper end closes up past a fixed lower one behind the deleted lines. -/
def Crosses (edit : LineEdit) (lo hi : Nat × Bool) : Prop :=
  edit.start + edit.count ≤ lo.1 ∧ lo.2 = true ∧ hi.2 = false ∧ hi.1 < lo.1 + edit.count

instance (edit : LineEdit) (lo hi : Nat × Bool) : Decidable (edit.Crosses lo hi) :=
  inferInstanceAs (Decidable (_ ∧ _ ∧ _ ∧ _))

/-- Two ends that stay lose their order only where the upper one closes up and the lower one does
    not. -/
theorem Fits.closedUp_lt_iff (h : edit.Fits) {lo hi : Nat × Bool} (hle : lo.1 ≤ hi.1)
    (hlo : edit.deletes lo.1 = false) (hhi : edit.deletes hi.1 = false) :
    edit.closedUp hi < edit.closedUp lo ↔ edit.Crosses lo hi := by
  have hlo := mt h.deletes_iff.mpr (Bool.eq_false_iff.mp hlo)
  have hhi := mt h.deletes_iff.mpr (Bool.eq_false_iff.mp hhi)
  unfold closedUp Crosses
  cases lo.2 <;> cases hi.2 <;> simp only [Bool.false_eq_true, Bool.true_eq_false, or_false,
    or_true, if_true, false_and, and_false, true_and, iff_false]
  · split <;> split <;> omega
  · split <;> omega
  · split <;> omega
  · omega

/-- **Where a span goes under a deletion**: nothing is left of it if both ends are deleted, or if
    its loose upper end crosses its fixed lower one. -/
theorem Fits.span?_of_deletes (h : edit.Fits) (hins : edit.inserts = false) {lo hi : Nat × Bool}
    (hle : lo.1 ≤ hi.1) (hhi : hi.1 < edit.axis.limit) : edit.span? lo hi =
      if (edit.deletes lo.1 = true ∧ edit.deletes hi.1 = true) ∨ edit.Crosses lo hi then none
      else some (edit.lowEnd lo, edit.highEnd hi) := by
  have hlo : lo.1 < edit.axis.limit := Nat.lt_of_le_of_lt hle hhi
  have hdlo := @Fits.deletes_iff edit lo.1 h
  have hdhi := @Fits.deletes_iff edit hi.1 h
  have hends := h.closedUp_lt_iff hle
  unfold span? lowEnd highEnd
  rw [if_neg (Bool.eq_false_iff.mp hins), h.point?_of_deletes hins hlo,
    h.point?_of_deletes hins hhi]
  cases hl : edit.deletes lo.1 <;> cases hh : edit.deletes hi.1 <;>
    simp only [hl, hh, Bool.false_eq_true, false_iff, true_iff] at hdlo hdhi <;>
    simp only [Bool.false_eq_true, if_false, if_true, false_and, and_false, false_or,
      true_or, and_self]
  · simp only [← hends hl hh, ← Nat.not_le, ite_not]
  · have hlow : edit.closedUp lo = lo.1 := if_pos (.inl (by omega))
    have hcross : ¬edit.Crosses lo hi := fun hcross => by
      have := hcross.1
      omega
    rw [if_neg (by omega : ¬edit.start = 0), hlow, if_neg hcross]
    exact if_pos (by omega)
  · have hhigh : edit.start ≤ edit.closedUp hi := by
      unfold closedUp
      split <;> omega
    have hcross : ¬edit.Crosses lo hi := fun hcross => by
      have := hcross.1
      omega
    rw [if_pos hhigh, if_neg hcross]
  · by_cases hstart : edit.start = 0
    · rw [if_pos hstart]
    · rw [if_neg hstart]
      exact if_neg (by omega)

/-- No line is moved off the grid. -/
theorem Fits.point?_lt (h : edit.Fits) {fixed : Bool} {moved : Nat} (hline : line < edit.axis.limit)
    (hmoved : edit.point? line fixed = some moved) : moved < edit.axis.limit := by
  cases fixed with
  | true => rwa [point?_fixed hmoved]
  | false =>
    rw [h.point?_eq hline] at hmoved
    exact of_decide_eq_true (Option.filter_eq_some_iff.mp hmoved).2

theorem Fits.span?_lt (h : edit.Fits) {lo hi : Nat × Bool} {x y : Nat}
    (hlo : lo.1 < edit.axis.limit) (hhi : hi.1 < edit.axis.limit)
    (hspan : edit.span? lo hi = some (x, y)) : x < edit.axis.limit ∧ y < edit.axis.limit := by
  have hpos : 0 < edit.axis.limit := Nat.zero_lt_of_lt hlo
  unfold span? at hspan
  split at hspan
  · obtain ⟨a, ha, hab⟩ := Option.map_eq_some_iff.mp hspan
    cases hab
    refine ⟨h.point?_lt hlo ha, ?_⟩
    cases hb : edit.point? hi.1 hi.2 with
    | none => exact Nat.sub_lt hpos Nat.one_pos
    | some b => exact h.point?_lt hhi hb
  · dsimp only at hspan
    split at hspan
    · rename_i a b hlow hhigh
      split at hspan
      · cases hspan
        refine ⟨?_, ?_⟩
        · split at hlow
          · rename_i hdeleted
            cases hlow
            simp only [deletes, Bool.and_eq_true, decide_eq_true_eq] at hdeleted
            omega
          · exact h.point?_lt hlo hlow
        · split at hhigh
          · rename_i hdeleted
            simp only [deletes, Bool.and_eq_true, decide_eq_true_eq] at hdeleted
            split at hhigh
            · cases hhigh
            · cases hhigh
              omega
          · exact h.point?_lt hhi hhigh
      · cases hspan
    · cases hspan

/-- No address is moved off the grid. -/
theorem Fits.onGrid_address? (h : edit.Fits) (ha : a.onGrid = true) {a' : CellRef}
    (hmoved : edit.address? a = some a') : a'.onGrid = true := by
  obtain ⟨line, hline, rfl⟩ := Option.map_eq_some_iff.mp hmoved
  exact Axis.onGrid_put ha (h.point?_lt (edit.axis.line_lt_of_onGrid ha) hline)

theorem Fits.onGrid_corners? (h : edit.Fits) (ha : a.onGrid = true) (hb : b.onGrid = true)
    {a' b' : CellRef} (hmoved : edit.corners? a b = some (a', b')) :
    a'.onGrid = true ∧ b'.onGrid = true := by
  have hla := edit.axis.line_lt_of_onGrid ha
  have hlb := edit.axis.line_lt_of_onGrid hb
  unfold corners? at hmoved
  dsimp only at hmoved
  split at hmoved
  · obtain ⟨⟨x, y⟩, hspan, hxy⟩ := Option.map_eq_some_iff.mp hmoved
    cases hxy
    obtain ⟨hx, hy⟩ := h.span?_lt hlb hla hspan
    exact ⟨Axis.onGrid_put ha hy, Axis.onGrid_put hb hx⟩
  · obtain ⟨⟨x, y⟩, hspan, hxy⟩ := Option.map_eq_some_iff.mp hmoved
    cases hxy
    obtain ⟨hx, hy⟩ := h.span?_lt hla hlb hspan
    exact ⟨Axis.onGrid_put ha hx, Axis.onGrid_put hb hy⟩

/-- A loose address goes where its line goes, as far as the grid reaches. -/
theorem Fits.address?_eq (h : edit.Fits) (ha : a.onGrid = true)
    (hloose : edit.axis.isFixed a = false) : edit.address? a =
      ((edit.line? (edit.axis.line a)).filter (· < edit.axis.limit)).map (edit.axis.put a) := by
  rw [address?, hloose, h.point?_eq (edit.axis.line_lt_of_onGrid ha)]

/-- A loose address goes where its cell goes. -/
theorem Fits.cell?_of_address? (h : edit.Fits) (ha : a.onGrid = true)
    (hloose : edit.axis.isFixed a = false) {a' : CellRef} (hmoved : edit.address? a = some a') :
    edit.cell? a.row a.col = some (a'.row, a'.col) := by
  rw [h.address?_eq ha hloose] at hmoved
  obtain ⟨line, hline, rfl⟩ := Option.map_eq_some_iff.mp hmoved
  have hline := (Option.filter_eq_some_iff.mp hline).1
  unfold cell?
  cases haxis : edit.axis <;> rw [haxis] at hline
  · exact Option.map_eq_some_iff.mpr ⟨line, hline, rfl⟩
  · exact Option.map_eq_some_iff.mpr ⟨line, hline, rfl⟩

/-- A loose address without a new place is deleted, or its cell is pushed off the grid. -/
theorem Fits.not_onGrid_of_address? (h : edit.Fits) (ha : a.onGrid = true)
    (hloose : edit.axis.isFixed a = false) (hmoved : edit.address? a = none) {row col : Nat}
    (hcell : edit.cell? a.row a.col = some (row, col)) :
    (CellRef.ofIndices row col).onGrid = false := by
  rw [h.address?_eq ha hloose, Option.map_eq_none_iff] at hmoved
  have hoff : ∀ moved, edit.line? (edit.axis.line a) = some moved → edit.axis.limit ≤ moved := by
    intro moved hline
    rw [hline, Option.filter_some] at hmoved
    split at hmoved
    · cases hmoved
    · rename_i hlimit
      exact Nat.le_of_not_lt fun hlt => hlimit (decide_eq_true hlt)
  refine Bool.eq_false_iff.mpr fun hgrid => ?_
  have hlt := edit.axis.line_lt_of_onGrid hgrid
  unfold cell? at hcell
  cases haxis : edit.axis <;> simp only [haxis] at hoff hlt hcell <;>
  · obtain ⟨moved, hline, e⟩ := Option.map_eq_some_iff.mp hcell
    cases e
    exact Nat.lt_irrefl _ (Nat.lt_of_lt_of_le hlt (hoff _ hline))

end LineEdit

end Lines

end Gridcalc
