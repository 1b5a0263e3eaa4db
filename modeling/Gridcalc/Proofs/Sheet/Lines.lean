import Gridcalc.Proofs.Formula.Lines
import Gridcalc.Proofs.Sheet.WellFormed

/-!
# Sheets with inserted and deleted lines

* `LineEdit.Accepts`: an edit that a sheet of some size allows;
* `LineEdit.moved?`, `Accepts.moved?_eq`: the indices that a store computes are those of
  `LineEdit.line?`;
* `Worksheet.applyEdit_eq_ok_iff`, `applyEdit_eq_ok`: a sheet can be edited if it allows the edit,
  and its lines are then where `LineEdit.line?` says;
* `Worksheet.Contained.applyEdit`, `WellFormed.applyEdit`: **everything stays inside of the edited
  sheet**, and a well-formed sheet stays well-formed;
* `Worksheet.inBounds_applyEdit`, `get?_applyEdit`, `exists_of_get?_applyEdit`: positions and cells
  before and after the edit;
* `Worksheet.lineCount_applyEdit`, `mem_hidden_applyEdit`: its size and its hidden rows.
-/

namespace Gridcalc

/-! ## 1. Sizes -/

namespace LineEdit

variable {edit : LineEdit} {size line moved : Nat}

/-- A sheet with so many lines allows the edit: lines are inserted in front of one of its lines or
    behind the last one, as far as the largest sheet reaches; lines of the sheet are deleted, one at
    least and not all of them. -/
def Accepts (edit : LineEdit) (size : Nat) : Prop :=
  if edit.inserts then edit.start ≤ size ∧ size + edit.count ≤ edit.axis.limit
  else 0 < edit.count ∧ edit.start + edit.count ≤ size ∧ edit.count < size

instance (edit : LineEdit) (size : Nat) : Decidable (edit.Accepts size) :=
  inferInstanceAs (Decidable (if edit.inserts then
    edit.start ≤ size ∧ size + edit.count ≤ edit.axis.limit
    else 0 < edit.count ∧ edit.start + edit.count ≤ size ∧ edit.count < size))

/-- Where a row goes; edits of columns move none. -/
def row? (edit : LineEdit) (row : Nat) : Option Nat :=
  match edit.axis with
  | .row => edit.line? row
  | .column => some row

/-- How many lines a sheet has after the edit. -/
def resized (edit : LineEdit) (size : Nat) : Nat :=
  if edit.inserts then size + edit.count else size - edit.count

/-- The indices of lines are below this. -/
def indexLimit (axis : Axis) : Nat :=
  match axis with
  | .row => CellStore.rowLimit
  | .column => CellStore.colLimit

/-- Where a store moves a line: an index past the largest one starts again from zero. -/
def moved? (edit : LineEdit) : Nat → Option Nat :=
  if edit.inserts then
    fun line => some (CellStore.shiftedUp (indexLimit edit.axis) edit.start edit.count line)
  else CellStore.shiftedDown? (indexLimit edit.axis) edit.start edit.count

/-- The largest sheet is smaller than what an index can count. -/
theorem limit_lt_indexLimit (axis : Axis) : axis.limit < indexLimit axis := by
  cases axis <;> decide

theorem Accepts.fits (h : edit.Accepts size) (hsize : size ≤ edit.axis.limit) : edit.Fits := by
  unfold Accepts at h
  unfold Fits
  split at h <;> omega

/-- Lines of the sheet stay on it, and lines outside of it stay outside. -/
theorem Accepts.lt_iff (h : edit.Accepts size) (hline : edit.line? line = some moved) :
    moved < edit.resized size ↔ line < size := by
  unfold Accepts at h
  unfold resized
  rcases line?_eq_some.mp hline with ⟨_, rfl⟩ | ⟨_, e, rfl⟩ | ⟨_, e, rfl⟩
  · split at h <;> (try rw [if_pos ‹_›]) <;> (try rw [if_neg ‹_›]) <;> omega
  · rw [e] at h ⊢
    simp only [if_true] at h ⊢
    omega
  · rw [e] at h ⊢
    simp only [Bool.false_eq_true, if_false] at h ⊢
    omega

theorem Accepts.resized_le (h : edit.Accepts size) (hsize : size ≤ edit.axis.limit) :
    edit.resized size ≤ edit.axis.limit := by
  unfold Accepts at h
  unfold resized
  split at h
  · rw [if_pos ‹_›]
    exact h.2
  · rw [if_neg ‹_›]
    omega

theorem Accepts.resized_pos (h : edit.Accepts size) (hsize : 1 ≤ size) :
    1 ≤ edit.resized size := by
  unfold Accepts at h
  unfold resized
  split at h
  · rw [if_pos ‹_›]
    omega
  · rw [if_neg ‹_›]
    omega

/-- **No index of a line of the sheet is too large**: the store moves it where the edit does. -/
theorem Accepts.moved?_eq (h : edit.Accepts size) (hsize : size ≤ edit.axis.limit)
    (hline : line < size) : edit.moved? line = edit.line? line := by
  have hlimit := limit_lt_indexLimit edit.axis
  unfold Accepts at h
  unfold moved? line?
  cases hins : edit.inserts <;> simp only [hins, Bool.false_eq_true, if_false, if_true] at h ⊢
  · have hend : min (edit.start + edit.count) (indexLimit edit.axis - 1) =
        edit.start + edit.count := by omega
    rw [CellStore.shiftedDown?, hend]
  · rw [CellStore.shiftedUp, Nat.mod_eq_of_lt (by omega)]
    split <;> rfl

end LineEdit

namespace Worksheet

variable {ws ws' : Worksheet} {edit : LineEdit} {row col row' col' : Nat} {cell : Cell}

/-- How many lines a sheet has. -/
def lineCount (ws : Worksheet) : Axis → Nat
  | .row => ws.rowCount
  | .column => ws.colCount

theorem Contained.lineCount_pos (h : ws.Contained) (axis : Axis) : 1 ≤ ws.lineCount axis := by
  cases axis
  · exact h.rows_pos
  · exact h.cols_pos

theorem Contained.lineCount_le (h : ws.Contained) (axis : Axis) :
    ws.lineCount axis ≤ axis.limit := by
  cases axis
  · exact h.rows_le
  · exact h.cols_le

/-- A sheet with its lines moved and another number of them. -/
def withLines (ws : Worksheet) (axis : Axis) (place : Nat → Option Nat) (size : Nat) : Worksheet :=
  match axis with
  | .row => { ws with store := ws.store.moveRows place, rowCount := size }
  | .column => { ws with store := ws.store.moveColumns place, colCount := size }

/-! ## 2. The edited sheet -/

/-- An edit that the sheet allows moves its lines. -/
theorem applyEdit_of_accepts (h : edit.Accepts (ws.lineCount edit.axis)) : ws.applyEdit edit =
    .ok (ws.withLines edit.axis edit.moved? (edit.resized (ws.lineCount edit.axis))) := by
  obtain ⟨axis, inserts, start, count⟩ := edit
  cases axis with
  | row =>
    cases inserts with
    | true =>
      obtain ⟨hstart, hsize⟩ : start ≤ ws.rowCount ∧ ws.rowCount + count ≤ maxRows := h
      change ws.insertRows start count = _
      rw [insertRows, if_neg (by omega), if_neg (by omega)]
      rfl
    | false =>
      obtain ⟨hcount, hfits, hleft⟩ :
        0 < count ∧ start + count ≤ ws.rowCount ∧ count < ws.rowCount := h
      change ws.deleteRows start count = _
      rw [deleteRows, if_neg (by omega), if_neg (by omega)]
      rfl
  | column =>
    cases inserts with
    | true =>
      obtain ⟨hstart, hsize⟩ : start ≤ ws.colCount ∧ ws.colCount + count ≤ maxColumns := h
      change ws.insertColumns start count = _
      rw [insertColumns, if_neg (by omega), if_neg (by omega)]
      rfl
    | false =>
      obtain ⟨hcount, hfits, hleft⟩ :
        0 < count ∧ start + count ≤ ws.colCount ∧ count < ws.colCount := h
      change ws.deleteColumns start count = _
      rw [deleteColumns, if_neg (by omega), if_neg (by omega)]
      rfl

/-- Any other edit is refused. -/
theorem applyEdit_of_not_accepts (h : ¬edit.Accepts (ws.lineCount edit.axis)) :
    ∃ e, ws.applyEdit edit = .error e := by
  obtain ⟨axis, inserts, start, count⟩ := edit
  cases axis <;> cases inserts <;>
    simp only [LineEdit.Accepts, Bool.false_eq_true, if_false, if_true, lineCount,
      Axis.limit] at h <;>
    simp only [applyEdit, insertRows, deleteRows, insertColumns, deleteColumns] <;>
    (split
     · exact ⟨_, rfl⟩
     · split
       · exact ⟨_, rfl⟩
       · exact absurd (by omega) h)

/-- **A sheet is edited exactly if it allows the edit**, and its lines are then moved. -/
theorem applyEdit_eq_ok_iff : ws.applyEdit edit = .ok ws' ↔
    edit.Accepts (ws.lineCount edit.axis) ∧
      ws' = ws.withLines edit.axis edit.moved? (edit.resized (ws.lineCount edit.axis)) := by
  by_cases haccepts : edit.Accepts (ws.lineCount edit.axis)
  · rw [applyEdit_of_accepts haccepts, Except.ok.injEq, eq_comm]
    exact (and_iff_right haccepts).symm
  · obtain ⟨e, he⟩ := applyEdit_of_not_accepts haccepts
    rw [he]
    exact iff_of_false (fun h => nomatch h) fun h => haccepts h.1

/-- **A sheet that was edited allowed it, and its lines are where the edit moves them.** -/
theorem applyEdit_eq_ok (hw : ws.Contained) (h : ws.applyEdit edit = .ok ws') :
    edit.Accepts (ws.lineCount edit.axis) ∧ 1 ≤ edit.resized (ws.lineCount edit.axis) ∧
      ∃ place, ws' = ws.withLines edit.axis place (edit.resized (ws.lineCount edit.axis)) ∧
        ∀ line, line < ws.lineCount edit.axis → place line = edit.line? line := by
  obtain ⟨haccepts, rfl⟩ := applyEdit_eq_ok_iff.mp h
  exact ⟨haccepts, haccepts.resized_pos (hw.lineCount_pos _), _, rfl, fun line hline =>
    haccepts.moved?_eq (hw.lineCount_le _) hline⟩

/-- **Inserting and deleting lines** keeps everything inside of the sheet. -/
theorem Contained.applyEdit (hw : ws.Contained) (h : ws.applyEdit edit = .ok ws') :
    ws'.Contained := by
  obtain ⟨haccepts, hpos, place, rfl, hplace⟩ := applyEdit_eq_ok hw h
  have hle := haccepts.resized_le (hw.lineCount_le edit.axis)
  have hlt : ∀ line line', line < ws.lineCount edit.axis → place line = some line' →
      line' < edit.resized (ws.lineCount edit.axis) := by
    intro line line' hline hp
    rw [hplace line hline] at hp
    exact (haccepts.lt_iff hp).mpr hline
  obtain ⟨axis, inserts, start, count⟩ := edit
  cases axis
  · exact hw.moveRows hpos hle hlt
  · exact hw.moveColumns hpos hle hlt

theorem name_withLines (ws : Worksheet) (axis : Axis) (place : Nat → Option Nat) (size : Nat) :
    (ws.withLines axis place size).name = ws.name := by
  cases axis <;> rfl

theorem tight_store_withLines (h : ws.store.Tight) (axis : Axis) (place : Nat → Option Nat)
    (size : Nat) : (ws.withLines axis place size).store.Tight := by
  cases axis
  · exact h.moveRows place
  · exact CellStore.Tight.moveColumns place

/-! ## 3. Positions and cells -/

section Edited

variable (hw : ws.Contained) (h : ws.applyEdit edit = .ok ws')

include hw h

theorem fits_of_applyEdit : edit.Fits :=
  (applyEdit_eq_ok hw h).1.fits (hw.lineCount_le edit.axis)

/-- No empty row is left behind. -/
theorem tight_applyEdit (ht : ws.store.Tight) : ws'.store.Tight := by
  obtain ⟨-, -, place, rfl, -⟩ := applyEdit_eq_ok hw h
  exact tight_store_withLines ht _ _ _

/-- Positions of the sheet stay on it, and positions outside of it stay outside. -/
theorem inBounds_applyEdit (hcell : edit.cell? row col = some (row', col')) :
    ws'.inBounds row' col' = ws.inBounds row col := by
  obtain ⟨haccepts, -, place, rfl, -⟩ := applyEdit_eq_ok hw h
  rw [Bool.eq_iff_iff, inBounds_iff, inBounds_iff]
  unfold LineEdit.cell? at hcell
  cases haxis : edit.axis <;> simp only [haxis] at hcell haccepts <;>
    obtain ⟨moved, hline, e⟩ := Option.map_eq_some_iff.mp hcell <;> cases e
  · exact and_congr_left' (haccepts.lt_iff hline)
  · exact and_congr_right' (haccepts.lt_iff hline)

/-- A stored cell comes from the place that has become its place. -/
theorem exists_of_get?_applyEdit (hget : ws'.get? row' col' = some cell) :
    ∃ row col, edit.cell? row col = some (row', col') ∧ ws.get? row col = some cell := by
  obtain ⟨-, -, place, rfl, hplace⟩ := applyEdit_eq_ok hw h
  unfold LineEdit.cell?
  cases haxis : edit.axis <;> simp only [haxis] at hget hplace ⊢
  · obtain ⟨row, hp, hcell⟩ := CellStore.get?_moveRows hget
    have hin := (inBounds_iff.mp (hw.bounded row col' cell hcell)).1
    rw [hplace row hin] at hp
    exact ⟨row, col', by rw [hp]; rfl, hcell⟩
  · obtain ⟨col, hp, hcell⟩ := CellStore.get?_moveColumns hget
    have hin := (inBounds_iff.mp (hw.bounded row' col cell hcell)).2
    rw [hplace col hin] at hp
    exact ⟨row', col, by rw [hp]; rfl, hcell⟩

/-- **What is stored at a position is stored at its new place.** -/
theorem get?_applyEdit (ht : ws.store.Tight) (hcell : edit.cell? row col = some (row', col')) :
    ws'.get? row' col' = ws.get? row col := by
  have hbounds := inBounds_applyEdit hw h hcell
  have hw' := hw.applyEdit h
  cases hin : ws.inBounds row col with
  | false =>
    rw [hin] at hbounds
    have hnone : ∀ (ws : Worksheet) row col, ws.Bounded → ws.inBounds row col = false →
        ws.get? row col = none := by
      intro ws row col hb hout
      refine Option.eq_none_iff_forall_ne_some.mpr fun cell hget => ?_
      rw [hb row col cell hget] at hout
      cases hout
    rw [hnone ws' row' col' hw'.bounded hbounds, hnone ws row col hw.bounded hin]
  | true =>
    obtain ⟨-, -, place, rfl, hplace⟩ := applyEdit_eq_ok hw h
    have hin := inBounds_iff.mp hin
    unfold LineEdit.cell? at hcell
    cases haxis : edit.axis <;> simp only [haxis] at hcell hplace ⊢ <;>
      obtain ⟨moved, hline, e⟩ := Option.map_eq_some_iff.mp hcell <;> cases e
    · refine CellStore.get?_moveRows_of_place ht ((hplace row hin.1).trans hline) ?_
      intro row₁ col₁ cell hget hp
      rw [hplace row₁ (inBounds_iff.mp (hw.bounded _ _ _ hget)).1] at hp
      exact LineEdit.line?_injective hp hline
    · refine CellStore.get?_moveColumns_of_place ((hplace col hin.2).trans hline) ?_
      intro col₁ cell hget hp
      rw [hplace col₁ (inBounds_iff.mp (hw.bounded _ _ _ hget)).2] at hp
      exact LineEdit.line?_injective hp hline

/-- A hidden row is hidden at its new place. -/
theorem mem_hidden_applyEdit : row ∈ ws'.store.hidden ↔
    ∃ old, edit.row? old = some row ∧ old ∈ ws.store.hidden := by
  obtain ⟨-, -, place, rfl, hplace⟩ := applyEdit_eq_ok hw h
  unfold LineEdit.row?
  cases haxis : edit.axis with
  | row =>
    rw [haxis] at hplace
    refine CellStore.mem_moveMembers.trans (exists_congr fun old => and_congr_left fun hmem => ?_)
    rw [hplace old (hw.hidden_lt old hmem)]
  | column =>
    simp only [Option.some.injEq, exists_eq_left]
    rfl

/-- The sheet has another size along the axis of the edit, and the old one along the other. -/
theorem lineCount_applyEdit (axis : Axis) : ws'.lineCount axis =
    if axis = edit.axis then edit.resized (ws.lineCount axis) else ws.lineCount axis := by
  obtain ⟨-, -, place, rfl, -⟩ := applyEdit_eq_ok hw h
  cases axis <;> cases haxis : edit.axis <;> rfl

end Edited

/-- **Inserting and deleting lines** keeps a sheet well-formed. -/
theorem WellFormed.applyEdit (hw : ws.WellFormed) (h : ws.applyEdit edit = .ok ws') :
    ws'.WellFormed := by
  refine (hw.contained.applyEdit h).wellFormed fun row' col' cell hget => ?_
  obtain ⟨row, col, -, hcell⟩ := exists_of_get?_applyEdit hw.contained h hget
  exact hw.not_blank row col cell hcell

theorem name_applyEdit (hw : ws.WellFormed) (h : ws.applyEdit edit = .ok ws') :
    ws'.name = ws.name := by
  obtain ⟨-, -, place, rfl, -⟩ := applyEdit_eq_ok hw.contained h
  exact name_withLines ws _ _ _

/-- Lines of the sheet can be deleted, if there is one to go and one to stay. -/
theorem exists_applyEdit_of_deletes (hdel : edit.inserts = false) (hcount : 0 < edit.count)
    (hfits : edit.start + edit.count ≤ ws.lineCount edit.axis)
    (hleft : edit.count < ws.lineCount edit.axis) : ∃ ws', ws.applyEdit edit = .ok ws' := by
  refine ⟨_, applyEdit_eq_ok_iff.mpr ⟨?_, rfl⟩⟩
  rw [LineEdit.Accepts, if_neg (Bool.eq_false_iff.mp hdel)]
  exact ⟨hcount, hfits, hleft⟩

/-- A frame is a name, a size and the hidden rows. -/
theorem frame_eq_iff : ws.frame = ws'.frame ↔ ws.name = ws'.name ∧
    (∀ axis, ws.lineCount axis = ws'.lineCount axis) ∧
    ∀ row, row ∈ ws.store.hidden ↔ row ∈ ws'.store.hidden := by
  constructor
  · intro h
    obtain ⟨hname, hrows, hcols, hstore⟩ := Worksheet.mk.inj h
    refine ⟨hname, fun axis => ?_, fun row => ?_⟩
    · cases axis
      · exact hrows
      · exact hcols
    · rw [(CellStore.mk.inj hstore).2]
  · rintro ⟨hname, hsize, hhidden⟩
    have hrows : ws.rowCount = ws'.rowCount := hsize .row
    have hcols : ws.colCount = ws'.colCount := hsize .column
    unfold frame
    rw [hname, hrows, hcols, Std.ExtTreeSet.ext_mem hhidden]

end Worksheet

end Gridcalc
