import Gridcalc.Proofs.Sheet.Lines
import Gridcalc.Proofs.Workbook.Runs

/-!
# Insertions and deletions as shifts

What stands on each line of a sheet after lines were inserted or deleted.

* `LineEdit.source?`, `sourceCell?`, `sourceRow?`: which line, position and row has become one; none
  if it is new;
* `Worksheet.Shifted`: a sheet with its cells and hidden rows shifted, inside of its new bounds;
* `Worksheet.shifted_applyEdit`: **an edited sheet is the old one shifted**;
* `Worksheet.applyEdit_exact`: which edits a sheet allows, that they shift it, and that any other
  edit changes nothing.
-/

namespace Gridcalc

namespace LineEdit

variable {edit : LineEdit} {line old row col row' col' : Nat}

/-! ## 1. Where lines come from -/

/-- The line that has become a line; none if the line is new. -/
def source? (edit : LineEdit) (line : Nat) : Option Nat :=
  if line < edit.start then some line
  else if edit.inserts then
    if line < edit.start + edit.count then none else some (line - edit.count)
  else some (line + edit.count)

/-- The position of the sheet that has become a position. -/
def sourceCell? (edit : LineEdit) (row col : Nat) : Option (Nat × Nat) :=
  match edit.axis with
  | .row => (edit.source? row).map fun row => (row, col)
  | .column => (edit.source? col).map fun col => (row, col)

/-- The row that has become a row; edits of columns move none. -/
def sourceRow? (edit : LineEdit) (row : Nat) : Option Nat :=
  match edit.axis with
  | .row => edit.source? row
  | .column => some row

/-- A line comes from where it goes to it. -/
theorem source?_eq_some : edit.source? line = some old ↔ edit.line? old = some line := by
  rw [line?_eq_some]
  unfold source?
  cases edit.inserts with
  | true =>
    simp only [if_true, Bool.true_eq_false, false_and, and_false, or_false, true_and]
    split
    · rw [Option.some.injEq]
      omega
    · split
      · simp only [reduceCtorEq, false_iff]
        omega
      · rw [Option.some.injEq]
        omega
  | false =>
    simp only [Bool.false_eq_true, if_false, false_and, and_false, false_or, true_and]
    split <;> rw [Option.some.injEq] <;> omega

theorem sourceCell?_eq_some :
    edit.sourceCell? row col = some (row', col') ↔ edit.cell? row' col' = some (row, col) := by
  unfold sourceCell? cell?
  cases edit.axis <;>
    simp only [Option.map_eq_some_iff, source?_eq_some, Prod.mk.injEq] <;>
    constructor <;> rintro ⟨_, hline, rfl, rfl⟩ <;> exact ⟨_, hline, rfl, rfl⟩

theorem sourceRow?_eq_some : edit.sourceRow? row = some old ↔ edit.row? old = some row := by
  unfold sourceRow? row?
  cases edit.axis
  · exact source?_eq_some
  · simp only [Option.some.injEq, eq_comm]

end LineEdit

namespace Worksheet

variable {ws ws' : Worksheet} {edit : LineEdit}

/-! ## 2. The shifted sheet -/

/-- A sheet with its lines shifted. -/
structure Shifted (edit : LineEdit) (ws ws' : Worksheet) : Prop where
  name : ws'.name = ws.name
  /-- The sheet grows or shrinks along the axis of the edit only. -/
  size : ∀ axis, ws'.lineCount axis =
    if axis = edit.axis then edit.resized (ws.lineCount axis) else ws.lineCount axis
  /-- A position holds what was stored where it comes from, and nothing if it is new. -/
  cells : ∀ row col, ws'.get? row col =
    (edit.sourceCell? row col).bind fun source => ws.get? source.1 source.2
  /-- A row is hidden if the row was that it comes from. -/
  hidden : ∀ row, ws'.isHidden row = (edit.sourceRow? row).any ws.isHidden
  contained : ws'.Contained
  tight : ws'.store.Tight
  /-- The lines are moved by the indices that the store computes for them. -/
  moves : ws' = ws.withLines edit.axis edit.moved? (edit.resized (ws.lineCount edit.axis))
  /-- No such index is too large, so that counting would start again from zero. -/
  index : ∀ line, line < ws.lineCount edit.axis → edit.moved? line = edit.line? line
  /-- No line was put in place of another one. -/
  apart : ∀ line line' moved, line < ws.lineCount edit.axis → line' < ws.lineCount edit.axis →
    edit.moved? line = some moved → edit.moved? line' = some moved → line = line'

theorem isHidden_iff {row : Nat} : ws.isHidden row = true ↔ row ∈ ws.store.hidden :=
  Std.ExtTreeSet.contains_iff_mem

/-- What is stored after the edit, wherever it comes from. -/
theorem get?_of_source (hw : ws.Contained) (ht : ws.store.Tight)
    (h : ws.applyEdit edit = .ok ws') (row col : Nat) : ws'.get? row col =
      (edit.sourceCell? row col).bind fun source => ws.get? source.1 source.2 := by
  cases hsource : edit.sourceCell? row col with
  | some source =>
    rw [Option.bind_some]
    exact get?_applyEdit hw h ht (LineEdit.sourceCell?_eq_some.mp hsource)
  | none =>
    refine Option.eq_none_iff_forall_ne_some.mpr fun cell hcell => ?_
    obtain ⟨row₀, col₀, hplace, -⟩ := exists_of_get?_applyEdit hw h hcell
    rw [LineEdit.sourceCell?_eq_some.mpr hplace] at hsource
    cases hsource

/-- **An edited sheet is the old one shifted.** -/
theorem shifted_applyEdit (hw : ws.Contained) (ht : ws.store.Tight)
    (h : ws.applyEdit edit = .ok ws') : Shifted edit ws ws' := by
  obtain ⟨haccepts, hmoved⟩ := applyEdit_eq_ok_iff.mp h
  have hindex : ∀ line, line < ws.lineCount edit.axis → edit.moved? line = edit.line? line :=
    fun line hline => haccepts.moved?_eq (hw.lineCount_le _) hline
  refine ⟨?_, lineCount_applyEdit hw h, get?_of_source hw ht h, fun row => ?_, hw.applyEdit h,
    tight_applyEdit hw h ht, hmoved, hindex, fun line line' moved hline hline' he he' => ?_⟩
  · rw [hmoved, name_withLines]
  · rw [Bool.eq_iff_iff, isHidden_iff, mem_hidden_applyEdit hw h, Option.any_eq_true]
    simp only [LineEdit.sourceRow?_eq_some, isHidden_iff]
  · rw [hindex _ hline] at he
    rw [hindex _ hline'] at he'
    exact LineEdit.line?_injective he he'

/-! ## 3. Allowed and refused edits -/

/-- **Insertions and deletions are exact shifts.** For a sheet with everything inside of its bounds
    and no empty rows kept, which none of the operations of a store leaves behind, and whichever
    lines are to be inserted or deleted: the edit goes through exactly if the sheet allows it; the
    sheet is then shifted; and an edit that is refused leaves the workbook as it was. -/
theorem applyEdit_exact (hw : ws.Contained) (ht : ws.store.Tight) (edit : LineEdit) :
    ((∃ ws', ws.applyEdit edit = .ok ws') ↔ edit.Accepts (ws.lineCount edit.axis)) ∧
    (∀ ws', ws.applyEdit edit = .ok ws' → Shifted edit ws ws') ∧
    ∀ e, ws.applyEdit edit = .error e → ∀ (wb : Workbook) (i : Nat), wb.sheets[i]? = some ws →
      Edit.editLines i edit wb = .error e wb := by
  refine ⟨⟨?_, fun h => ⟨_, applyEdit_of_accepts h⟩⟩, fun ws' => shifted_applyEdit hw ht,
    fun e he wb i hws => ?_⟩
  · rintro ⟨ws', h⟩
    exact (applyEdit_eq_ok_iff.mp h).1
  · refine (Edit.bind_ok (Edit.getSheet_ok hws)).trans (Edit.bind_error ?_)
    rw [he]
    rfl

/-- A sheet with one row less than the largest sheet. The last row is hidden and holds a cell. -/
def oneRowLeft : Worksheet :=
  { create "Sheet1" (maxRows - 1) 3 with
    store := (CellStore.put {} (maxRows - 2) 0 { value := .boolean true }).setHidden
      (maxRows - 2) true }

theorem get?_oneRowLeft (row col : Nat) : oneRowLeft.get? row col =
    if maxRows - 2 = row ∧ 0 = col then some { value := .boolean true } else none := by
  refine (CellStore.get?_put {} (maxRows - 2) 0 row col { value := .boolean true }).trans ?_
  simp [CellStore.get?]

theorem contained_oneRowLeft : oneRowLeft.Contained := by
  refine ⟨by decide, by decide, by decide, by decide, fun row col cell hcell => ?_,
    fun row hrow => ?_⟩
  · rw [get?_oneRowLeft] at hcell
    obtain ⟨⟨rfl, rfl⟩, -⟩ := Option.ite_none_right_eq_some.mp hcell
    decide
  · have hrow : row ∈ (∅ : Std.ExtTreeSet Nat).insert (maxRows - 2) := hrow
    simp only [Std.ExtTreeSet.mem_insert, Std.compare_eq_iff_eq, Std.ExtTreeSet.not_mem_empty,
      or_false] at hrow
    subst hrow
    decide

theorem tight_oneRowLeft : oneRowLeft.store.Tight := CellStore.tight_empty.put _

/-- One row on top pushes the last row to the end of the largest sheet; the next one is refused. -/
theorem applyEdit_exact_oneRowLeft : ∃ ws', oneRowLeft.applyEdit (.insertRows 0 1) = .ok ws' ∧
    ws'.rowCount = maxRows ∧ ws'.get? (maxRows - 1) 0 = some { value := .boolean true } ∧
    ws'.isHidden (maxRows - 1) = true ∧ ws'.isHidden (maxRows - 2) = false ∧
    ∃ e, ws'.applyEdit (.insertRows 0 1) = .error e := by
  obtain ⟨hallowed, hshifted, -⟩ :=
    applyEdit_exact contained_oneRowLeft tight_oneRowLeft (.insertRows 0 1)
  obtain ⟨ws', h⟩ := hallowed.mpr (by decide)
  have hs := hshifted ws' h
  have hrows : ws'.rowCount = maxRows := (hs.size .row).trans (by decide)
  refine ⟨ws', h, hrows, (hs.cells _ _).trans ?_, (hs.hidden _).trans ?_, (hs.hidden _).trans ?_,
    applyEdit_of_not_accepts ?_⟩
  · have hsource : (LineEdit.insertRows 0 1).sourceCell? (maxRows - 1) 0 =
        some (maxRows - 2, 0) := by decide
    rw [hsource, Option.bind_some, get?_oneRowLeft]
    exact if_pos ⟨rfl, rfl⟩
  · have hsource : (LineEdit.insertRows 0 1).sourceRow? (maxRows - 1) = some (maxRows - 2) := by
      decide
    rw [hsource]
    exact isHidden_iff.mpr Std.ExtTreeSet.mem_insert_self
  · have hsource : (LineEdit.insertRows 0 1).sourceRow? (maxRows - 2) = some (maxRows - 3) := by
      decide
    rw [hsource]
    refine Bool.eq_false_iff.mpr fun hhidden => ?_
    have hmem : maxRows - 3 ∈ (∅ : Std.ExtTreeSet Nat).insert (maxRows - 2) :=
      isHidden_iff.mp hhidden
    simp [maxRows] at hmem
  · rintro ⟨-, hfull⟩
    have hfull : ws'.rowCount + 1 ≤ maxRows := hfull
    omega

end Worksheet

end Gridcalc
