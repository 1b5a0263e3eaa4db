import Gridcalc.Proofs.Formula.Lines
import Gridcalc.Proofs.Formula.Trees
import Gridcalc.Proofs.Sheet.Contents

/-!
# Where inserted and deleted lines move rectangles

The two ends of a span and the lines between them are moved by different rules: an end that is
deleted goes to the nearest line that stays, and one that is pushed off the grid to the last line.
The rules agree.

* `LineEdit.Opens`, `LineEdit.OpensIn`: the lines and positions that an insertion opens up inside of
  a span and of a rectangle;
* `Fits.mem_span?_iff`: **a span that has moved holds the lines that it has held, where they have
  gone, and those that were opened up inside of it**;
* `Fits.contains_corners?_iff`, `Fits.contains_address?_iff`: the same of rectangles and addresses;
* `Fits.covers_iff`: hence of all references.
-/

namespace Gridcalc

namespace LineEdit

variable {edit : LineEdit} {lo hi line x y : Nat} {a b : CellRef} {row col : Nat}

/-! ## 1. Spans -/

/-- A line that an insertion opens up between the ends of a span. -/
def Opens (edit : LineEdit) (lo hi line : Nat) : Prop :=
  edit.inserts = true ∧ lo < edit.start ∧ edit.start ≤ hi ∧
    edit.start ≤ line ∧ line < edit.start + edit.count

/-- Which lines some lines of a span have become. -/
theorem exists_line?_iff : (∃ old, edit.line? old = some line ∧ lo ≤ old ∧ old ≤ hi) ↔
    (line < edit.start ∧ lo ≤ line ∧ line ≤ hi) ∨
      (edit.inserts = true ∧ edit.start + edit.count ≤ line ∧ lo + edit.count ≤ line ∧
        line ≤ hi + edit.count) ∨
      (edit.inserts = false ∧ edit.start ≤ line ∧ lo ≤ line + edit.count ∧
        line + edit.count ≤ hi) := by
  constructor
  · rintro ⟨old, hold, hlo, hhi⟩
    rcases line?_eq_some.mp hold with ⟨_, rfl⟩ | ⟨_, hins, rfl⟩ | ⟨_, hins, rfl⟩
    · exact .inl (by omega)
    · exact .inr (.inl ⟨hins, by omega⟩)
    · exact .inr (.inr ⟨hins, by omega⟩)
  · rintro (h | ⟨hins, h⟩ | ⟨hins, h⟩)
    · exact ⟨line, line?_eq_some.mpr (.inl ⟨h.1, rfl⟩), h.2⟩
    · exact ⟨line - edit.count, line?_eq_some.mpr (.inr (.inl ⟨by omega, hins, by omega⟩)),
        by omega⟩
    · exact ⟨line + edit.count, line?_eq_some.mpr (.inr (.inr ⟨by omega, hins, by omega⟩)),
        by omega⟩

/-- A loose line of a reference under an insertion. -/
theorem Fits.point?_of_inserts (h : edit.Fits) (hins : edit.inserts = true)
    (hline : line < edit.axis.limit) : edit.point? line false =
      if line < edit.start then some line
      else if line + edit.count < edit.axis.limit then some (line + edit.count) else none := by
  rw [h.point?_eq hline, line?, if_pos hins]
  split
  · rw [Option.filter_some, decide_eq_true hline, if_pos rfl]
  · rw [Option.filter_some]
    simp only [decide_eq_true_eq]

/-- **Where a loose span goes** under an insertion: its end is held by the grid. -/
theorem Fits.span?_of_inserts (h : edit.Fits) (hins : edit.inserts = true) (hle : lo ≤ hi)
    (hhi : hi < edit.axis.limit) : edit.span? (lo, false) (hi, false) = some (x, y) ↔
      x = (if lo < edit.start then lo else lo + edit.count) ∧ x < edit.axis.limit ∧
      y = min (if hi < edit.start then hi else hi + edit.count) (edit.axis.limit - 1) := by
  have hend : (edit.point? hi false).getD (edit.axis.limit - 1) =
      min (if hi < edit.start then hi else hi + edit.count) (edit.axis.limit - 1) := by
    rw [h.point?_of_inserts hins hhi]
    split
    · rw [Option.getD_some]
      omega
    · split
      · rw [Option.getD_some]
        omega
      · rw [Option.getD_none]
        omega
  have hlo : lo < edit.axis.limit := by omega
  unfold span?
  rw [if_pos hins]
  dsimp only
  rw [hend, h.point?_of_inserts hins hlo]
  by_cases hbefore : lo < edit.start
  · simp only [if_pos hbefore, Option.map_some, Option.some.injEq, Prod.mk.injEq]
    omega
  · simp only [if_neg hbefore]
    by_cases hlimit : lo + edit.count < edit.axis.limit
    · simp only [if_pos hlimit, Option.map_some, Option.some.injEq, Prod.mk.injEq]
      omega
    · simp only [if_neg hlimit, Option.map_none, reduceCtorEq, false_iff]
      omega

/-- **Where a loose span goes** under a deletion: ends that are deleted go to the nearest lines that
    stay. -/
theorem Fits.span?_of_deletes_loose (h : edit.Fits) (hins : edit.inserts = false) (hle : lo ≤ hi)
    (hhi : hi < edit.axis.limit) : edit.span? (lo, false) (hi, false) = some (x, y) ↔
      x = (if lo < edit.start then lo else max edit.start (lo - edit.count)) ∧
      y + 1 = (if hi < edit.start then hi + 1
        else max edit.start (hi + 1 - edit.count)) ∧ x ≤ y := by
  have hcross : ¬edit.Crosses (lo, false) (hi, false) := fun hcross => Bool.noConfusion hcross.2.1
  rw [h.span?_of_deletes hins hle hhi]
  simp only [h.deletes_iff, hcross, or_false, lowEnd, highEnd, closedUp, Bool.false_eq_true]
  rw [Option.ite_none_left_eq_some, Option.some.injEq, Prod.mk.injEq]
  split <;> split <;> (try split) <;> (try split) <;> omega

/-- The ends of a span stay in order. -/
theorem Fits.le_of_span? (h : edit.Fits) (hle : lo ≤ hi) (hhi : hi < edit.axis.limit)
    (hspan : edit.span? (lo, false) (hi, false) = some (x, y)) : x ≤ y := by
  cases hins : edit.inserts with
  | false => exact ((h.span?_of_deletes_loose hins hle hhi).mp hspan).2.2
  | true =>
    obtain ⟨hx, hxlt, hy⟩ := (h.span?_of_inserts hins hle hhi).mp hspan
    split at hx <;> split at hy <;> omega

/-- **A span that has moved holds the lines that it has held**, where they have gone, and those that
    were opened up inside of it. -/
theorem Fits.mem_span?_iff (h : edit.Fits) (hle : lo ≤ hi) (hhi : hi < edit.axis.limit)
    (hline : line < edit.axis.limit) :
    (∃ x y, edit.span? (lo, false) (hi, false) = some (x, y) ∧ x ≤ line ∧ line ≤ y) ↔
      (∃ old, edit.line? old = some line ∧ lo ≤ old ∧ old ≤ hi) ∨ edit.Opens lo hi line := by
  rw [exists_line?_iff, Opens]
  cases hins : edit.inserts with
  | true =>
    simp only [h.span?_of_inserts hins hle hhi, true_and, Bool.true_eq_false, false_and, or_false]
    constructor
    · rintro ⟨x, y, ⟨hx, -, hy⟩, hxl, hly⟩
      split at hx <;> split at hy <;> omega
    · intro hmem
      refine ⟨_, _, ⟨rfl, ?_, rfl⟩, ?_, ?_⟩ <;> split <;> omega
  | false =>
    simp only [h.span?_of_deletes_loose hins hle hhi, true_and, Bool.false_eq_true, false_and,
      false_or, or_false]
    constructor
    · rintro ⟨x, y, ⟨hx, hy, -⟩, hxl, hly⟩
      split at hx <;> split at hy <;> omega
    · intro hmem
      refine ⟨_, (if hi < edit.start then hi + 1 else max edit.start (hi + 1 - edit.count)) - 1,
        ⟨rfl, ?_, ?_⟩, ?_, ?_⟩ <;> split <;> (try split) <;> omega

end LineEdit

/-! ## 2. Rectangles -/

/-- Between two numbers that stand in any order. -/
def Within (m n k : Nat) : Prop := min m n ≤ k ∧ k ≤ max m n

namespace Axis

/-- The place of an address on its line. -/
def side (axis : Axis) (r : CellRef) : Nat :=
  match axis with
  | .row => r.col
  | .column => r.row

variable (axis : Axis) (a : CellRef) (n row col : Nat)

@[simp] theorem line_put : axis.line (axis.put a n) = n := by cases axis <;> rfl

@[simp] theorem side_put : axis.side (axis.put a n) = axis.side a := by cases axis <;> rfl

/-- A rectangle holds the positions between its lines and between its sides. -/
theorem contains_iff (r : RangeRef) : r.contains row col = true ↔
    Within (axis.line r.start) (axis.line r.stop) (axis.line (.ofIndices row col)) ∧
      Within (axis.side r.start) (axis.side r.stop) (axis.side (.ofIndices row col)) := by
  rw [RangeRef.contains_iff]
  cases axis with
  | row => exact and_assoc.symm
  | column =>
    exact ⟨fun ⟨h₁, h₂, h₃, h₄⟩ => ⟨⟨h₃, h₄⟩, h₁, h₂⟩, fun ⟨⟨h₃, h₄⟩, h₁, h₂⟩ => ⟨h₁, h₂, h₃, h₄⟩⟩

end Axis

namespace LineEdit

variable {edit : LineEdit} {a b : CellRef} {row col row' col' : Nat}

/-- A position goes to another line, and keeps its place on it. -/
theorem cell?_eq_some : edit.cell? row' col' = some (row, col) ↔
    edit.line? (edit.axis.line (.ofIndices row' col')) =
        some (edit.axis.line (.ofIndices row col)) ∧
      edit.axis.side (.ofIndices row' col') = edit.axis.side (.ofIndices row col) := by
  unfold cell?
  cases edit.axis <;>
    simp [Option.map_eq_some_iff, Axis.line, Axis.side, CellRef.ofIndices]

/-- A position that an insertion opens up inside of a rectangle: on an inserted line between the
    first line and the last one, and between the other two sides. -/
def OpensIn (edit : LineEdit) (r : RangeRef) (row col : Nat) : Prop :=
  edit.Opens (min (edit.axis.line r.start) (edit.axis.line r.stop))
      (max (edit.axis.line r.start) (edit.axis.line r.stop))
      (edit.axis.line (.ofIndices row col)) ∧
    Within (edit.axis.side r.start) (edit.axis.side r.stop) (edit.axis.side (.ofIndices row col))

/-- Loose corners go where the span between them goes; which of them is the lower one stays. -/
theorem corners?_eq_some (ha : edit.axis.isFixed a = false) (hb : edit.axis.isFixed b = false)
    {a' b' : CellRef} : edit.corners? a b = some (a', b') ↔
      ∃ x y, edit.span? (min (edit.axis.line a) (edit.axis.line b), false)
          (max (edit.axis.line a) (edit.axis.line b), false) = some (x, y) ∧
        if edit.axis.line b < edit.axis.line a then
          a' = edit.axis.put a y ∧ b' = edit.axis.put b x
        else a' = edit.axis.put a x ∧ b' = edit.axis.put b y := by
  unfold corners?
  dsimp only
  rw [ha, hb]
  split
  · rw [Nat.min_eq_right (by omega), Nat.max_eq_left (by omega), Option.map_eq_some_iff]
    simp only [Prod.exists, Prod.mk.injEq, eq_comm]
  · rw [Nat.min_eq_left (by omega), Nat.max_eq_right (by omega), Option.map_eq_some_iff]
    simp only [Prod.exists, Prod.mk.injEq, eq_comm]

/-- The rectangle between loose corners that have moved holds the positions between its sides, on
    lines of the span that has moved. -/
theorem Fits.contains_corners?_iff_span? (h : edit.Fits) (ha : a.onGrid = true)
    (hb : b.onGrid = true) (hla : edit.axis.isFixed a = false)
    (hlb : edit.axis.isFixed b = false) :
    (∃ a' b', edit.corners? a b = some (a', b') ∧ (RangeRef.mk a' b').contains row col = true) ↔
      (∃ x y, edit.span? (min (edit.axis.line a) (edit.axis.line b), false)
          (max (edit.axis.line a) (edit.axis.line b), false) = some (x, y) ∧
        x ≤ edit.axis.line (.ofIndices row col) ∧ edit.axis.line (.ofIndices row col) ≤ y) ∧
      Within (edit.axis.side a) (edit.axis.side b) (edit.axis.side (.ofIndices row col)) := by
  have hle : min (edit.axis.line a) (edit.axis.line b) ≤
      max (edit.axis.line a) (edit.axis.line b) := min_le_max
  have hlt : max (edit.axis.line a) (edit.axis.line b) < edit.axis.limit :=
    Nat.max_lt.mpr ⟨edit.axis.line_lt_of_onGrid ha, edit.axis.line_lt_of_onGrid hb⟩
  simp only [corners?_eq_some hla hlb, edit.axis.contains_iff]
  constructor
  · rintro ⟨a', b', ⟨x, y, hspan, hends⟩, hline, hside⟩
    have hxy := h.le_of_span? hle hlt hspan
    unfold Within at hline
    split at hends <;> obtain ⟨rfl, rfl⟩ := hends <;>
      simp only [Axis.line_put, Axis.side_put] at hline hside <;>
      exact ⟨⟨x, y, hspan, by omega, by omega⟩, hside⟩
  · rintro ⟨⟨x, y, hspan, hx, hy⟩, hside⟩
    by_cases hswap : edit.axis.line b < edit.axis.line a
    · refine ⟨edit.axis.put a y, edit.axis.put b x, ⟨x, y, hspan, ?_⟩, ?_⟩
      · rw [if_pos hswap]
        exact ⟨rfl, rfl⟩
      · simp only [Axis.line_put, Axis.side_put]
        exact ⟨⟨by omega, by omega⟩, hside⟩
    · refine ⟨edit.axis.put a x, edit.axis.put b y, ⟨x, y, hspan, ?_⟩, ?_⟩
      · rw [if_neg hswap]
        exact ⟨rfl, rfl⟩
      · simp only [Axis.line_put, Axis.side_put]
        exact ⟨⟨by omega, by omega⟩, hside⟩

/-- Where the positions of a rectangle go, by their lines. -/
theorem exists_cell?_contains_iff :
    (∃ row' col', edit.cell? row' col' = some (row, col) ∧
      (RangeRef.mk a b).contains row' col' = true) ↔
      (∃ old, edit.line? old = some (edit.axis.line (.ofIndices row col)) ∧
        min (edit.axis.line a) (edit.axis.line b) ≤ old ∧
        old ≤ max (edit.axis.line a) (edit.axis.line b)) ∧
      Within (edit.axis.side a) (edit.axis.side b) (edit.axis.side (.ofIndices row col)) := by
  simp only [cell?_eq_some, edit.axis.contains_iff]
  constructor
  · rintro ⟨row', col', ⟨hline, hside⟩, hlines, hsides⟩
    exact ⟨⟨_, hline, hlines⟩, hside ▸ hsides⟩
  · rintro ⟨⟨old, hold, hlines⟩, hsides⟩
    have hput : CellRef.ofIndices (edit.axis.put (.ofIndices row col) old).row
        (edit.axis.put (.ofIndices row col) old).col =
        edit.axis.put (.ofIndices row col) old := by cases edit.axis <;> rfl
    refine ⟨(edit.axis.put (.ofIndices row col) old).row,
      (edit.axis.put (.ofIndices row col) old).col, ?_⟩
    rw [hput, Axis.line_put, Axis.side_put]
    exact ⟨⟨hold, rfl⟩, hlines, hsides⟩

/-- **A rectangle that has moved holds the positions that it has held**, where they have gone, and
    those that were opened up inside of it. -/
theorem Fits.contains_corners?_iff (h : edit.Fits) (ha : a.onGrid = true) (hb : b.onGrid = true)
    (hla : edit.axis.isFixed a = false) (hlb : edit.axis.isFixed b = false)
    (hgrid : (CellRef.ofIndices row col).onGrid = true) :
    (∃ a' b', edit.corners? a b = some (a', b') ∧ (RangeRef.mk a' b').contains row col = true) ↔
      (∃ row' col', edit.cell? row' col' = some (row, col) ∧
        (RangeRef.mk a b).contains row' col' = true) ∨ edit.OpensIn ⟨a, b⟩ row col := by
  have hlt : max (edit.axis.line a) (edit.axis.line b) < edit.axis.limit :=
    Nat.max_lt.mpr ⟨edit.axis.line_lt_of_onGrid ha, edit.axis.line_lt_of_onGrid hb⟩
  rw [h.contains_corners?_iff_span? ha hb hla hlb,
    h.mem_span?_iff min_le_max hlt (edit.axis.line_lt_of_onGrid hgrid),
    exists_cell?_contains_iff, OpensIn]
  exact or_and_right

/-- An address is a range from itself to itself. -/
theorem corners?_self (edit : LineEdit) (a : CellRef) :
    edit.corners? a a = (edit.address? a).map fun a' => (a', a') := by
  have hspan : edit.span? (edit.axis.line a, edit.axis.isFixed a)
      (edit.axis.line a, edit.axis.isFixed a) =
      (edit.point? (edit.axis.line a) (edit.axis.isFixed a)).map fun x => (x, x) := by
    unfold span?
    dsimp only
    cases hins : edit.inserts with
    | true => cases edit.point? (edit.axis.line a) (edit.axis.isFixed a) <;> rfl
    | false =>
      cases hdel : edit.deletes (edit.axis.line a) with
      | true =>
        have hgone : edit.point? (edit.axis.line a) (edit.axis.isFixed a) = none := by
          rw [point?, hins, hdel]
          rfl
        rw [hgone]
        by_cases hstart : edit.start = 0
        · simp [hstart]
        · simp only [if_neg hstart, if_true, Bool.false_eq_true, if_false, Option.map_none]
          exact if_neg (by omega)
      | false =>
        cases edit.point? (edit.axis.line a) (edit.axis.isFixed a) with
        | none => rfl
        | some x => exact if_pos (Nat.le_refl x)
  unfold corners? address?
  dsimp only
  rw [if_neg (Nat.lt_irrefl _), hspan, Option.map_map, Option.map_map]
  rfl

/-- Nothing is opened up inside of a single address. -/
theorem not_opensIn_single : ¬edit.OpensIn (.single a) row col := by
  rintro ⟨⟨-, hlo, hhi, -⟩, -⟩
  simp only [RangeRef.single, Nat.min_self, Nat.max_self] at hlo hhi
  omega

/-- **An address that has moved is the position that it has been**, where it has gone. -/
theorem Fits.contains_address?_iff (h : edit.Fits) (ha : a.onGrid = true)
    (hloose : edit.axis.isFixed a = false) (hgrid : (CellRef.ofIndices row col).onGrid = true) :
    (∃ a', edit.address? a = some a' ∧ (RangeRef.single a').contains row col = true) ↔
      ∃ row' col', edit.cell? row' col' = some (row, col) ∧
        (RangeRef.single a).contains row' col' = true := by
  refine Iff.trans ?_ ((h.contains_corners?_iff ha ha hloose hloose hgrid).trans
    (or_iff_left not_opensIn_single))
  rw [corners?_self]
  constructor
  · rintro ⟨a', haddress, hin⟩
    exact ⟨a', a', by rw [haddress]; rfl, hin⟩
  · rintro ⟨a', b', haddress, hin⟩
    obtain ⟨moved, hmoved, e⟩ := Option.map_eq_some_iff.mp haddress
    cases e
    exact ⟨_, hmoved, hin⟩

/-- What a reference to the edited sheet covers after the edit. -/
def Covers (edit : LineEdit) (row col : Nat) : Reference → Prop
  | .cell _ a => ∃ a', edit.address? a = some a' ∧ (RangeRef.single a').contains row col = true
  | .range _ r =>
    ∃ a b, edit.corners? r.start r.stop = some (a, b) ∧ (RangeRef.mk a b).contains row col = true

theorem Fits.covers_iff (h : edit.Fits) {r : Reference} (hgrid : ∀ a ∈ r.corners, a.onGrid = true)
    (hloose : ∀ a ∈ r.corners, edit.axis.isFixed a = false)
    (hin : (CellRef.ofIndices row col).onGrid = true) : edit.Covers row col r ↔
      (∃ row' col', edit.cell? row' col' = some (row, col) ∧
        r.area.contains row' col' = true) ∨ edit.OpensIn r.area row col := by
  cases r with
  | cell sheet a =>
    have ha : a ∈ (Reference.cell sheet a).corners := List.mem_cons_self
    exact (h.contains_address?_iff (hgrid a ha) (hloose a ha) hin).trans
      (or_iff_left not_opensIn_single).symm
  | range sheet r =>
    have ha : r.start ∈ (Reference.range sheet r).corners := List.mem_cons_self
    have hb : r.stop ∈ (Reference.range sheet r).corners :=
      List.mem_cons_of_mem _ List.mem_cons_self
    exact h.contains_corners?_iff (hgrid _ ha) (hgrid _ hb) (hloose _ ha) (hloose _ hb) hin

end LineEdit

end Gridcalc
