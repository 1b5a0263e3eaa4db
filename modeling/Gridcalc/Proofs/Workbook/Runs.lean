import Gridcalc.Proofs.Workbook.Steps
import Gridcalc.Workbook.Clipboard
import Gridcalc.Workbook.RowFilter
import Gridcalc.Workbook.Sorting

/-!
# Operations as steps

What each operation makes of a well-formed workbook, and by which steps.

* `Edit.after`: the workbook after an operation, whether or not it is refused;
* `after_writeContents`, `after_setStyle` and so on: the workbook that an operation leaves;
* `Edit.Writes`: an operation that is refused at once, or puts cells into places and evaluates what
  depends on them; `Writes.steps` are the steps that it is made of, at the end of which no pass is
  owed;
* `exists_pasteClip`, `pasteClip_error`: what pasting puts where, and when it is refused;
* `writes_writeContents`, `writes_sort`, `writes_pasteClip`: writing, sorting and pasting are such
  operations.
-/

namespace Gridcalc

open Relation

/-- A cell lies in a rectangle of a sheet. -/
def CellKey.LiesIn (key : CellKey) (sheet : Nat) (range : RangeRef) : Prop :=
  key.sheet = sheet ∧ range.contains key.row key.col = true

instance (key : CellKey) (sheet : Nat) (range : RangeRef) : Decidable (key.LiesIn sheet range) :=
  inferInstanceAs (Decidable (_ ∧ _))

/-- A clip that was copied or cut from some workbook. -/
def Clip.Taken (clip : Clip) : Prop :=
  ∃ (wb : Workbook) (mode : ClipMode) (sheet : Nat) (range : RangeRef),
    wb.clip mode sheet range = .ok clip

/-- A clip can be pasted: the rectangle that it covers lies in the sheet, and if it was cut, the
    index of its sheet still means one. -/
structure Clip.Fits (clip : Clip) (sheet : Nat) (corner : CellRef) (wb : Workbook) : Prop where
  target : ∃ ws, wb.sheets[sheet]? = some ws ∧ ws.containsRange (clip.target corner) = true
  source : clip.mode = .cut → wb.sheets[clip.sheet]? ≠ none

namespace Edit

/-! ## 1. Runs -/

/-- The workbook after an operation, whether or not it is refused. -/
def after {α : Type} (op : Edit α) (wb : Workbook) : Workbook :=
  match op wb with
  | .ok _ wb => wb
  | .error _ wb => wb

section Runs

variable {α β : Type} {op : Edit α} {f : α → Edit β} {wb wb' : Workbook} {a : α} {e : Failure}
  {i : Nat} {ws : Worksheet}

theorem bind_ok (h : op wb = .ok a wb') : (op >>= f) wb = f a wb' := by
  simp only [bind, EStateM.bind, h]

theorem bind_error (h : op wb = .error e wb') : (op >>= f) wb = .error e wb' := by
  simp only [bind, EStateM.bind, h]

/-- An operation in two parts goes through if both of them do. -/
theorem bind_eq_ok {b : β} {wb'' : Workbook} (h : (op >>= f) wb = .ok b wb'') :
    ∃ a wb', op wb = .ok a wb' ∧ f a wb' = .ok b wb'' := by
  cases hop : op wb with
  | ok a wb' => exact ⟨a, wb', rfl, (bind_ok hop).symm.trans h⟩
  | error e wb' =>
    rw [bind_error hop] at h
    cases h

theorem after_ok (h : op wb = .ok a wb') : op.after wb = wb' := by
  simp only [after, h]

theorem after_error (h : op wb = .error e wb') : op.after wb = wb' := by
  simp only [after, h]

theorem lift_ok (a : α) (wb : Workbook) : (lift (.ok a) : Edit α) wb = .ok a wb := rfl

theorem lift_error (e : Failure) (wb : Workbook) :
    (lift (.error e) : Edit α) wb = .error e wb := rfl

/-- A refused first part stops the operation. -/
theorem after_bind (op : Edit α) (f : α → Edit β) (wb : Workbook) :
    (op >>= f).after wb =
      match op wb with
      | .ok a wb' => (f a).after wb'
      | .error _ wb' => wb' := by
  cases h : op wb with
  | ok a wb' => simp only [after, bind_ok h]
  | error e wb' => simp only [after, bind_error h]

/-- A result of its own makes no difference to the workbook. -/
theorem after_bind_pure (op : Edit α) (b : α → β) (wb : Workbook) :
    (op >>= fun a => pure (b a)).after wb = op.after wb := by
  rw [after_bind]
  unfold after
  cases op wb <;> rfl

theorem getSheet_ok (h : wb.sheets[i]? = some ws) : getSheet i wb = .ok ws wb := by
  rw [← Workbook.sheet?_eq] at h
  have hget : (get : Edit Workbook) wb = .ok wb wb := rfl
  refine (bind_ok hget).trans ?_
  simp only [h]
  rfl

theorem getSheet_error (h : wb.sheets[i]? = none) :
    getSheet i wb = .error (.sheetOutOfBounds i wb.tabs.length) wb := by
  rw [← Workbook.sheet?_eq] at h
  have hget : (get : Edit Workbook) wb = .ok wb wb := rfl
  refine (bind_ok hget).trans ?_
  simp only [h]
  rfl

theorem getSheet_eq_ok (h : getSheet i wb = .ok ws wb') : wb' = wb ∧ wb.sheets[i]? = some ws := by
  cases hws : wb.sheets[i]? with
  | none =>
    rw [getSheet_error hws] at h
    cases h
  | some ws' =>
    rw [getSheet_ok hws] at h
    cases h
    exact ⟨rfl, rfl⟩

theorem lift_eq_ok {x : Except Failure α} (h : (lift x : Edit α) wb = .ok a wb') :
    wb' = wb ∧ x = .ok a := by
  cases x with
  | ok a' =>
    cases h
    exact ⟨rfl, rfl⟩
  | error e => cases h

/-- An operation that begins with looking up a sheet leaves a workbook without it alone. -/
theorem after_getSheet_bind (f : Worksheet → Edit β) :
    (getSheet i >>= f).after wb =
      match wb.sheets[i]? with
      | some ws => (f ws).after wb
      | none => wb := by
  cases h : wb.sheets[i]? with
  | some ws => simp only [after, bind_ok (getSheet_ok h)]
  | none => exact after_error (bind_error (getSheet_error h))

/-- An operation that begins with a part that may be refused. -/
theorem after_lift_bind (x : Except Failure α) (f : α → Edit β) :
    (lift x >>= f).after wb =
      match x with
      | .ok a => (f a).after wb
      | .error _ => wb := by
  cases x with
  | ok a => simp only [after, bind_ok (lift_ok a wb)]
  | error e => exact after_error (bind_error (lift_error e wb))

/-- An operation that begins with looking at the workbook. -/
theorem after_get_bind (f : Workbook → Edit β) (wb : Workbook) :
    (get >>= f).after wb = (f wb).after wb := rfl

end Runs

/-! ## 2. Single cells -/

section Cells

variable {wb : Workbook} {key : CellKey} {sheet row col : Nat}

theorem putCell_ok (h : wb.InGrid key) (cell : Option Cell) :
    putCell key cell wb = .ok () (wb.put key (cell.getD {})) := by
  obtain ⟨ws, hws, hin⟩ := h
  have hvalid := Worksheet.validate_eq_ok_iff.mpr hin
  have hstored : (if (cell.getD {}).isBlank then (ws.takeCell key.row key.col).map (·.2)
      else ws.setCell key.row key.col (cell.getD {})) =
      .ok (ws.putCell key.row key.col (cell.getD {})) := by
    by_cases hb : (cell.getD {}).isBlank = true
    · simp only [hb, if_true, Worksheet.takeCell, hvalid, Worksheet.putCell, CellStore.set]
      rfl
    · simp only [hb, Worksheet.setCell, hvalid, Worksheet.putCell]
      rfl
  rw [Workbook.put_eq hws]
  unfold putCell
  rw [bind_ok (getSheet_ok hws)]
  simp only [hstored]
  rfl

theorem putCell_error (h : ¬wb.InGrid key) (cell : Option Cell) :
    ∃ e, putCell key cell wb = .error e wb := by
  unfold putCell
  cases hws : wb.sheets[key.sheet]? with
  | none => exact ⟨_, bind_error (getSheet_error hws)⟩
  | some ws =>
    rw [bind_ok (getSheet_ok hws)]
    have hinvalid : ∃ e, ws.validate key.row key.col = .error e := by
      cases hv : ws.validate key.row key.col with
      | ok u => exact absurd ⟨ws, hws, Worksheet.validate_eq_ok_iff.mp hv⟩ h
      | error e => exact ⟨e, rfl⟩
    obtain ⟨e, he⟩ := hinvalid
    refine ⟨e, ?_⟩
    have hstored : (if (cell.getD {}).isBlank then (ws.takeCell key.row key.col).map (·.2)
        else ws.setCell key.row key.col (cell.getD {})) = .error e := by
      split
      · simp only [Worksheet.takeCell, he]
        rfl
      · simp only [Worksheet.setCell, he]
        rfl
    simp only [hstored]
    rfl

/-- The style of a cell. -/
def styleIn (wb : Workbook) (key : CellKey) : Nat :=
  ((cellIn wb.sheets key).map Cell.style).getD 0

/-- A write puts the contents into the place, in the style of the cell, and evaluates what depends
    on it. -/
theorem writeContents_ok (h : wb.InGrid ⟨sheet, row, col⟩) (cell : Cell) :
    writeContents sheet row col cell wb =
      .ok () ((wb.put ⟨sheet, row, col⟩ (cell.withStyle (styleIn wb ⟨sheet, row, col⟩))).recalculate
        [⟨sheet, row, col⟩]).2 := by
  have hin := h
  obtain ⟨ws, hws, -⟩ := h
  have hstyle : styleIn wb ⟨sheet, row, col⟩ = ws.styleAt row col := by
    rw [styleIn, cellIn_eq hws]
    rfl
  rw [hstyle, writeContents, bind_ok (getSheet_ok hws), bind_ok (putCell_ok hin _)]
  rfl

theorem after_writeContents (h : wb.InGrid ⟨sheet, row, col⟩) (cell : Cell) :
    (writeContents sheet row col cell).after wb =
      ((wb.put ⟨sheet, row, col⟩ (cell.withStyle (styleIn wb ⟨sheet, row, col⟩))).recalculate
        [⟨sheet, row, col⟩]).2 :=
  after_ok (writeContents_ok h cell)

/-- A write changes the formula of its own cell only. -/
theorem formulaIn_writeContents (h : wb.InGrid ⟨sheet, row, col⟩) (cell : Cell) (k : CellKey) :
    formulaIn ((writeContents sheet row col cell).after wb).sheets k =
      if ⟨sheet, row, col⟩ = k then cell.formula else formulaIn wb.sheets k := by
  rw [after_writeContents h, Workbook.recalculate_sheets, formulaIn_performTasks, formulaIn,
    Workbook.cellIn_put h]
  split
  · rw [Cell.formula_unlessBlank]
    rfl
  · rfl

/-- A write outside of the grid is refused. -/
theorem writeContents_error (h : ¬wb.InGrid ⟨sheet, row, col⟩) (cell : Cell) :
    ∃ e, writeContents sheet row col cell wb = .error e wb := by
  cases hws : wb.sheets[sheet]? with
  | none => exact ⟨_, bind_error (getSheet_error hws)⟩
  | some ws =>
    obtain ⟨e, he⟩ := putCell_error h (some (cell.withStyle (ws.styleAt row col)))
    exact ⟨e, (bind_ok (getSheet_ok hws)).trans (bind_error he)⟩

theorem after_writeContents_of_not (h : ¬wb.InGrid ⟨sheet, row, col⟩) (cell : Cell) :
    (writeContents sheet row col cell).after wb = wb := by
  obtain ⟨e, he⟩ := writeContents_error h cell
  exact after_error he

/-- A write that goes through was one in the grid. -/
theorem writeContents_eq_ok {wb' : Workbook} {cell : Cell}
    (h : writeContents sheet row col cell wb = .ok () wb') :
    wb.InGrid ⟨sheet, row, col⟩ ∧
      wb' = ((wb.put ⟨sheet, row, col⟩ (cell.withStyle (styleIn wb ⟨sheet, row, col⟩))).recalculate
        [⟨sheet, row, col⟩]).2 := by
  by_cases hin : wb.InGrid ⟨sheet, row, col⟩
  · rw [writeContents_ok hin cell] at h
    cases h
    exact ⟨hin, rfl⟩
  · obtain ⟨e, he⟩ := writeContents_error hin cell
    rw [he] at h
    cases h

theorem after_setStyle (h : wb.InGrid ⟨sheet, row, col⟩) (style : Nat) :
    (setStyle sheet row col style).after wb = wb.restyle ⟨sheet, row, col⟩ style := by
  obtain ⟨ws, hws, hin⟩ := h
  have hws' : wb.sheets[(CellKey.mk sheet row col).sheet]? = some ws := hws
  have hvalid := Worksheet.validate_eq_ok_iff.mpr hin
  have hstyle : ws.setStyle row col style =
      .ok { ws with store := (ws.store.touch row col).modify row col (·.withStyle style) } := by
    simp only [Worksheet.setStyle, Worksheet.changeCell, hvalid]
    rfl
  simp only [setStyle, after_getSheet_bind, hws, after_lift_bind, hstyle, Workbook.restyle]
  rfl

theorem after_setStyle_of_not (h : ¬wb.InGrid ⟨sheet, row, col⟩) (style : Nat) :
    (setStyle sheet row col style).after wb = wb := by
  rw [setStyle, after_getSheet_bind]
  split
  · rename_i ws hws
    cases hv : ws.validate row col with
    | ok u => exact absurd ⟨ws, hws, Worksheet.validate_eq_ok_iff.mp hv⟩ h
    | error e =>
      have hstyle : ws.setStyle row col style = .error e := by
        simp only [Worksheet.setStyle, Worksheet.changeCell, hv]
        rfl
      simp only [hstyle, after_lift_bind]
  · rfl

end Cells

/-! ## 3. Several cells -/

end Edit

namespace Workbook

variable {wb : Workbook} {cells : List (CellKey × Cell)} {owed : List CellKey}

/-- The workbook with cells put into places one after another. -/
def putAll (wb : Workbook) (cells : List (CellKey × Cell)) : Workbook :=
  cells.foldl (fun wb x => wb.put x.1 x.2) wb

theorem putAll_cons (wb : Workbook) (x : CellKey × Cell) (cells : List (CellKey × Cell)) :
    wb.putAll (x :: cells) = (wb.put x.1 x.2).putAll cells := rfl

theorem putAll_append (wb : Workbook) (cells cells' : List (CellKey × Cell)) :
    wb.putAll (cells ++ cells') = (wb.putAll cells).putAll cells' := List.foldl_append

/-- What every single cell keeps, all of them keep. -/
theorem putAll_induction (P : Workbook → Prop) (h : P wb)
    (hput : ∀ wb, ∀ x ∈ cells, P wb → P (wb.put x.1 x.2)) : P (wb.putAll cells) := by
  induction cells generalizing wb with
  | nil => exact h
  | cons x cells ih =>
    refine ih (hput wb x List.mem_cons_self h) fun wb y hy => ?_
    exact hput wb y (List.mem_cons_of_mem _ hy)

theorem sameFrames_putAll (wb : Workbook) (cells : List (CellKey × Cell)) :
    SameFrames (wb.putAll cells).sheets wb.sheets :=
  putAll_induction (fun wb' => SameFrames wb'.sheets wb.sheets) (.refl _)
    fun wb' x _ h => (sameFrames_put wb' x.1 x.2).trans h

/-- Cells in the grid are put there by steps, after which all the places are owed. -/
theorem steps_putAll (h : ∀ x ∈ cells, wb.InGrid x.1) :
    Steps ⟨wb, owed⟩ ⟨wb.putAll cells, (cells.map Prod.fst).reverse ++ owed⟩ := by
  induction cells generalizing wb owed with
  | nil => exact .refl
  | cons x cells ih =>
    have hput : Step ⟨wb, owed⟩ ⟨wb.put x.1 x.2, x.1 :: owed⟩ := .put (h x List.mem_cons_self) _
    have hrest := @ih (wb.put x.1 x.2) (x.1 :: owed) fun y hy =>
      (h y (List.mem_cons_of_mem _ hy)).of_sameFrames (sameFrames_put wb _ _).symm
    rw [List.map_cons, List.reverse_cons, List.append_assoc]
    exact ReflTransGen.head hput hrest

theorem WellFormed.putAll (hw : wb.WellFormed) (h : ∀ x ∈ cells, wb.InGrid x.1) :
    (wb.putAll cells).WellFormed :=
  (@steps_putAll wb cells [] h).wellFormed hw

end Workbook

/-- The rectangle that a clip covers, by the distance from its corner. -/
theorem Clip.contains_target_iff {clip : Clip} {corner : CellRef} {row col : Nat} :
    (clip.target corner).contains row col = true ↔
      corner.row ≤ row ∧ row - corner.row < clip.source.rowCount ∧
        corner.col ≤ col ∧ col - corner.col < clip.source.colCount := by
  have hrows : 1 ≤ clip.source.rowCount := Nat.le_add_left 1 _
  have hcols : 1 ≤ clip.source.colCount := Nat.le_add_left 1 _
  rw [Clip.target, RangeRef.contains_between (by omega) (by omega)]
  omega

namespace Edit

section Places

variable {α β : Type} {op : Edit α} {wb : Workbook} {within : CellKey → Prop}

/-- Storing cells one after another, all of them in the grid. -/
theorem forM_putCell {xs : List α} {key : α → CellKey} (cell : α → Option Cell)
    (h : ∀ x ∈ xs, wb.InGrid (key x)) :
    (xs.forM fun x => putCell (key x) (cell x)) wb =
      .ok () (wb.putAll (xs.map fun x => (key x, (cell x).getD {}))) := by
  induction xs generalizing wb with
  | nil => rfl
  | cons x xs ih =>
    have hput := putCell_ok (h x List.mem_cons_self) (cell x)
    rw [List.map_cons, Workbook.putAll_cons, ← ih fun y hy => ?_]
    · exact bind_ok hput
    · exact (h y (List.mem_cons_of_mem _ hy)).of_sameFrames (Workbook.sameFrames_put wb _ _).symm

/-- An operation that is refused before it changes anything, or has nothing to change, or puts cells
    into places of the grid and then evaluates what depends on them. -/
def Writes (op : Edit α) (wb : Workbook) (within : CellKey → Prop) : Prop :=
  (∃ e, op wb = .error e wb) ∨ (∃ a, op wb = .ok a wb) ∨
    ∃ a cells seeds, (∀ x ∈ cells, wb.InGrid x.1 ∧ within x.1 ∧ x.1 ∈ seeds) ∧
      op wb = .ok a ((wb.putAll cells).recalculate seeds).2

theorem writes_throw (e : Failure) : (throw e : Edit α).Writes wb within := .inl ⟨e, rfl⟩

theorem writes_pure (a : α) : (pure a : Edit α).Writes wb within := .inr (.inl ⟨a, rfl⟩)

/-- A part that only looks at the workbook may come first. -/
theorem Writes.following {a : α} {f : α → Edit β} (hop : op wb = .ok a wb)
    (hf : (f a).Writes wb within) : (op >>= f).Writes wb within := by
  unfold Writes at hf ⊢
  rwa [bind_ok hop]

theorem Writes.getSheet_bind {i : Nat} {f : Worksheet → Edit β}
    (h : ∀ ws, wb.sheets[i]? = some ws → (f ws).Writes wb within) :
    (getSheet i >>= f).Writes wb within := by
  cases hws : wb.sheets[i]? with
  | some ws => exact .following (getSheet_ok hws) (h ws hws)
  | none => exact .inl ⟨_, bind_error (getSheet_error hws)⟩

/-- A test that throws when it fails. -/
theorem Writes.ite {p : Prop} [Decidable p] {op' : Edit α} (h : p → op.Writes wb within)
    (h' : ¬p → op'.Writes wb within) : (if p then op else op').Writes wb within := by
  split
  · exact h ‹_›
  · exact h' ‹_›

/-- A result of its own makes no difference. -/
theorem Writes.map_pure (h : op.Writes wb within) (b : α → β) :
    (op >>= fun a => pure (b a)).Writes wb within := by
  rcases h with ⟨e, he⟩ | ⟨a, ha⟩ | ⟨a, cells, seeds, hcells, hok⟩
  · exact .inl ⟨e, bind_error he⟩
  · exact .inr (.inl ⟨b a, bind_ok ha⟩)
  · exact .inr (.inr ⟨b a, cells, seeds, hcells, bind_ok hok⟩)

/-- Putting cells into places of the grid, and evaluating what depends on them. -/
theorem writes_place {xs : List α} {key : α → CellKey} (cell : α → Option Cell)
    {seeds : List CellKey} (b : β)
    (h : ∀ x ∈ xs, wb.InGrid (key x) ∧ within (key x) ∧ key x ∈ seeds) :
    (do
      xs.forM fun x => putCell (key x) (cell x)
      let _ ← recalculate seeds
      return b : Edit β).Writes wb within := by
  refine .inr (.inr ⟨b, xs.map fun x => (key x, (cell x).getD {}), seeds, fun y hy => ?_, ?_⟩)
  · obtain ⟨x, hx, rfl⟩ := List.mem_map.mp hy
    exact h x hx
  · rw [bind_ok (forM_putCell cell fun x hx => (h x hx).1)]
    rfl

/-- Such an operation is made of steps, at the end of which no pass is owed. -/
theorem Writes.steps (h : op.Writes wb within) : Steps ⟨wb, []⟩ ⟨op.after wb, []⟩ := by
  rcases h with ⟨e, he⟩ | ⟨a, ha⟩ | ⟨a, cells, seeds, hcells, hok⟩
  · rw [after_error he]
  · rw [after_ok ha]
  · rw [after_ok hok]
    have hputs := @Workbook.steps_putAll wb cells [] fun x hx => (hcells x hx).1
    refine hputs.tail (.pass fun key hkey => ?_)
    rw [List.append_nil, List.mem_reverse] at hkey
    obtain ⟨x, hx, rfl⟩ := List.mem_map.mp hkey
    exact (hcells x hx).2.2

end Places

theorem writes_writeContents (wb : Workbook) (sheet row col : Nat) (cell : Cell) :
    (writeContents sheet row col cell).Writes wb (· = ⟨sheet, row, col⟩) := by
  refine .getSheet_bind fun ws hws => ?_
  by_cases h : wb.InGrid ⟨sheet, row, col⟩
  · refine .inr (.inr ⟨(), [(⟨sheet, row, col⟩, cell.withStyle (ws.styleAt row col))],
      [⟨sheet, row, col⟩], fun x hx => ?_, bind_ok (putCell_ok h _)⟩)
    rw [List.mem_singleton.mp hx]
    exact ⟨h, rfl, List.mem_cons_self⟩
  · obtain ⟨e, he⟩ := putCell_error h (some (cell.withStyle (ws.styleAt row col)))
    exact .inl ⟨e, bind_error he⟩

section Sorting

variable {ws : Worksheet} {range : RangeRef} {order : SortOrder} {keyCol : Nat}
  {skipHeader : Bool}

/-- The slots of a sorted range consist of its cells. -/
theorem contains_of_mem_sortSlots {slot : List (Nat × Nat)} (hs : slot ∈ sortSlots range skipHeader)
    {row col : Nat} (h : (row, col) ∈ slot) : range.contains row col = true := by
  rw [RangeRef.contains_iff]
  unfold sortSlots at hs
  split at hs
  · rename_i hone
    obtain ⟨c, hc, rfl⟩ := List.mem_map.mp hs
    obtain ⟨rfl, rfl⟩ := Prod.mk.inj (List.mem_singleton.mp h)
    have hc := RangeRef.mem_cols.mp hc
    exact ⟨Nat.le_refl _, range.first_le_last.1, hc.1, hc.2⟩
  · obtain ⟨r, hr, rfl⟩ := List.mem_map.mp hs
    obtain ⟨c, hc, he⟩ := List.mem_map.mp h
    obtain ⟨rfl, rfl⟩ := Prod.mk.inj he
    have hr := RangeRef.mem_rows.mp (List.mem_of_mem_drop hr)
    have hc := RangeRef.mem_cols.mp hc
    exact ⟨hr.1, hr.2, hc.1, hc.2⟩

/-- Sorting puts cells into the places of the range only. -/
theorem contains_of_mem_sortedCells {row col : Nat} {cell : Option Cell}
    (h : ((row, col), cell) ∈ sortedCells ws order keyCol (sortSlots range skipHeader)) :
    range.contains row col = true := by
  obtain ⟨⟨slot, record⟩, hz, h⟩ := List.mem_flatMap.mp h
  exact contains_of_mem_sortSlots (List.of_mem_zip hz).1 (List.of_mem_zip h).1

/-- **Sorting** checks the range and the key before it puts anything, and stays in its sheet. -/
theorem writes_sort (wb : Workbook) (sheet : Nat) (range : RangeRef) (order : SortOrder)
    (keyCol : Nat) (skipHeader : Bool) :
    (sort sheet range order keyCol skipHeader).Writes wb (·.sheet = sheet) := by
  refine .getSheet_bind fun ws hws => ?_
  refine .ite (fun _ => writes_throw _) fun hrange => ?_
  have hrange : ws.containsRange range = true := by simpa using hrange
  refine .ite (fun _ => writes_throw _) fun _ => ?_
  refine .ite (fun _ => writes_pure false) fun _ => ?_
  have hgrid : ∀ x ∈ sortedCells ws order keyCol (sortSlots range skipHeader),
      wb.InGrid ⟨sheet, x.1.1, x.1.2⟩ := by
    intro ⟨⟨row, col⟩, cell⟩ hx
    exact ⟨ws, hws, inBounds_of_contains hrange (contains_of_mem_sortedCells hx)⟩
  exact writes_place Prod.snd true fun x hx => ⟨hgrid x hx, rfl, List.mem_map_of_mem hx⟩

end Sorting

section Pasting

variable {wb : Workbook} {ws : Worksheet} {sheet : Nat} {range : RangeRef} {clip : Clip}
  {corner : CellRef}

/-- The stored cells of a range have their places in the grid. -/
theorem storedIn_ok (h : wb.WellFormed) (hws : wb.sheets[sheet]? = some ws) :
    ∃ keys, storedIn sheet range wb = .ok keys wb ∧ (∀ key ∈ keys, wb.InGrid key) ∧
      ∀ key : CellKey, key ∈ keys ↔ key.LiesIn sheet range ∧ cellIn wb.sheets key ≠ none := by
  have hmem : ∀ key, key ∈ (ws.cellsIn range).map (fun x => CellKey.mk sheet x.1 x.2.1) ↔
      key.LiesIn sheet range ∧ cellIn wb.sheets key ≠ none := by
    intro ⟨i, row, col⟩
    simp only [List.mem_map, Worksheet.cellsIn, List.mem_filter, Prod.exists, CellKey.mk.injEq]
    constructor
    · rintro ⟨r, c, cell, ⟨hcell, hin⟩, rfl, rfl, rfl⟩
      have hstored : ws.get? r c = some cell := CellStore.mem_cells.mp hcell
      exact ⟨⟨rfl, hin⟩, by simp [cellIn_eq hws, hstored]⟩
    · rintro ⟨⟨rfl, hin⟩, hcell⟩
      rw [cellIn_eq hws] at hcell
      obtain ⟨cell, hcell⟩ := Option.ne_none_iff_exists'.mp hcell
      exact ⟨row, col, cell, ⟨CellStore.mem_cells.mpr hcell, hin⟩, rfl, rfl, rfl⟩
  refine ⟨_, bind_ok (getSheet_ok hws), fun key hkey => ?_, hmem⟩
  obtain ⟨⟨rfl, -⟩, hcell⟩ := (hmem key).mp hkey
  obtain ⟨cell, hcell⟩ := Option.ne_none_iff_exists'.mp hcell
  rw [show key = ⟨key.sheet, key.row, key.col⟩ from rfl, cellIn_eq hws] at hcell
  exact ⟨ws, hws, (h.getElem? hws).bounded key.row key.col cell hcell⟩

/-- A clip holds the stored cells of a range that lies in its sheet, by their distance from the
    corner. -/
theorem clip_eq_ok {mode : ClipMode} (h : wb.clip mode sheet range = .ok clip) :
    clip.mode = mode ∧ clip.sheet = sheet ∧ clip.source = range ∧
      ∀ row col cell, (row, col, cell) ∈ clip.cells ↔
        row < range.rowCount ∧ col < range.colCount ∧
          cellIn wb.sheets ⟨sheet, range.firstRow + row, range.firstCol + col⟩ = some cell := by
  unfold Workbook.clip at h
  rw [Workbook.sheet?_eq] at h
  split at h
  · cases h
  · rename_i ws hws
    split at h
    · cases h
      refine ⟨rfl, rfl, rfl, fun row col cell => ?_⟩
      rw [cellIn_eq hws]
      simp only [List.mem_map, Worksheet.cellsIn, List.mem_filter, Prod.exists, Prod.mk.injEq,
        Worksheet.cells, CellStore.mem_cells, RangeRef.contains_iff, RangeRef.rowCount,
        RangeRef.colCount]
      constructor
      · rintro ⟨r, c, cell', ⟨hcell, hin⟩, rfl, rfl, rfl⟩
        have hrow : range.firstRow + (r - range.firstRow) = r := by omega
        have hcol : range.firstCol + (c - range.firstCol) = c := by omega
        rw [hrow, hcol]
        exact ⟨by omega, by omega, hcell⟩
      · rintro ⟨hrow, hcol, hcell⟩
        refine ⟨_, _, cell, ⟨hcell, ?_⟩, by omega, by omega, rfl⟩
        have hrows := range.first_le_last
        omega
    · cases h

/-- The cells of a clip lie in its rectangle. -/
theorem offset_lt (h : clip.Taken) {row col : Nat} {cell : Cell}
    (hc : (row, col, cell) ∈ clip.cells) :
    row < clip.source.rowCount ∧ col < clip.source.colCount := by
  obtain ⟨wb, mode, sheet, range, h⟩ := h
  obtain ⟨-, -, rfl, hcells⟩ := clip_eq_ok h
  obtain ⟨hrow, hcol, -⟩ := (hcells row col cell).mp hc
  exact ⟨hrow, hcol⟩

/-- A cell of a clip comes to a place of the rectangle that the clip covers. -/
theorem contains_target (h : clip.Taken) {row col : Nat} {cell : Cell}
    (hc : (row, col, cell) ∈ clip.cells) :
    (clip.target corner).contains (corner.row + row) (corner.col + col) = true := by
  obtain ⟨hrow, hcol⟩ := offset_lt h hc
  rw [Clip.contains_target_iff]
  omega

/-- Pasting, once it is known which places of the source are to be cleared. -/
def pasteOver (clip : Clip) (sheet : Nat) (corner : CellRef) (left : List CellKey) :
    Edit RangeRef := do
  let cleared := left ++ (← storedIn sheet (clip.target corner))
  cleared.forM fun key => putCell key none
  let placed := clip.cells.map fun (row, col, cell) =>
    (CellKey.mk sheet (corner.row + row) (corner.col + col), clip.placed corner cell)
  placed.forM fun (key, cell) => putCell key (some cell)
  let _ ← recalculate (cleared ++ placed.map (·.1))
  return clip.target corner

/-- The cells of a clip with the places that they are pasted into. -/
def placements (clip : Clip) (sheet : Nat) (corner : CellRef) : List (CellKey × Cell) :=
  clip.cells.map fun (row, col, cell) =>
    (CellKey.mk sheet (corner.row + row) (corner.col + col), clip.placed corner cell)

theorem inGrid_placements (hclip : clip.Taken) (hws : wb.sheets[sheet]? = some ws)
    (hrange : ws.containsRange (clip.target corner) = true) :
    ∀ x ∈ placements clip sheet corner, wb.InGrid x.1 := by
  intro x hx
  obtain ⟨⟨row, col, cell⟩, hc, rfl⟩ := List.mem_map.mp hx
  exact ⟨ws, hws, inBounds_of_contains hrange (contains_target hclip hc)⟩

/-- What pasting puts into which places: blanks into those to be cleared, and then the cells of the
    clip. -/
def pasted (clip : Clip) (sheet : Nat) (corner : CellRef) (cleared : List CellKey) :
    List (CellKey × Cell) :=
  (cleared.map fun key => (key, ({} : Cell))) ++ placements clip sheet corner

theorem inGrid_pasted {cleared : List CellKey} (hclip : clip.Taken)
    (hws : wb.sheets[sheet]? = some ws) (hrange : ws.containsRange (clip.target corner) = true)
    (hcleared : ∀ key ∈ cleared, wb.InGrid key) :
    ∀ x ∈ pasted clip sheet corner cleared, wb.InGrid x.1 := by
  intro x hx
  rcases List.mem_append.mp hx with hx | hx
  · obtain ⟨key, hkey, rfl⟩ := List.mem_map.mp hx
    exact hcleared key hkey
  · exact inGrid_placements hclip hws hrange x hx

/-- The workbook after pasting: everything is in its place, and what depends on it is evaluated. -/
def afterPasting (wb : Workbook) (clip : Clip) (sheet : Nat) (corner : CellRef)
    (cleared : List CellKey) : Workbook :=
  ((wb.putAll (pasted clip sheet corner cleared)).recalculate
    (cleared ++ (placements clip sheet corner).map (·.1))).2

/-- Clearing leaves the sizes of the sheets, so that the places of the clip are still in the grid
    when it is their turn. -/
theorem pasteOver_ok (hclip : clip.Taken) (hws : wb.sheets[sheet]? = some ws)
    (hrange : ws.containsRange (clip.target corner) = true) {left there : List CellKey}
    (hthere : storedIn sheet (clip.target corner) wb = .ok there wb)
    (hcleared : ∀ key ∈ left ++ there, wb.InGrid key) :
    pasteOver clip sheet corner left wb =
      .ok (clip.target corner) (afterPasting wb clip sheet corner (left ++ there)) := by
  let blank : List (CellKey × Cell) := (left ++ there).map fun key => (key, {})
  let placed := placements clip sheet corner
  have hplaced : ∀ x ∈ placed, wb.InGrid x.1 := inGrid_placements hclip hws hrange
  have hclear := @forM_putCell _ wb (left ++ there) id (fun _ => none) hcleared
  have hplace := @forM_putCell _ (wb.putAll blank) placed Prod.fst (fun x => some x.2)
    fun x hx => (hplaced x hx).of_sameFrames (Workbook.sameFrames_putAll wb blank).symm
  have hsame : placed.map (fun x => (x.1, (some x.2).getD {})) = placed := List.map_id _
  rw [hsame] at hplace
  rw [afterPasting, pasted, Workbook.putAll_append, pasteOver, bind_ok hthere]
  refine (bind_ok hclear).trans ((bind_ok hplace).trans ?_)
  rfl

/-- Once the rectangle has been found in its sheet, the source of what was cut is looked at. -/
theorem pasteClip_eq (hws : wb.sheets[sheet]? = some ws)
    (hrange : ws.containsRange (clip.target corner) = true) :
    pasteClip clip sheet corner wb = (do
      let left ← if clip.mode = .cut then storedIn clip.sheet clip.source else pure []
      pasteOver clip sheet corner left : Edit RangeRef) wb := by
  refine (bind_ok (getSheet_ok hws)).trans ?_
  simp only [hrange, Bool.not_true, Bool.false_eq_true, if_false]
  split <;> rfl

/-- **A clip that fits is pasted**: the source of what was cut and the target are cleared, and then
    the cells of the clip are put into the target. -/
theorem exists_pasteClip (h : wb.WellFormed) (hclip : clip.Taken)
    (hfits : clip.Fits sheet corner wb) :
    ∃ cleared, (∀ x ∈ pasted clip sheet corner cleared, wb.InGrid x.1) ∧
      (∀ key : CellKey, key ∈ cleared ↔ (clip.mode = .cut ∧ key.LiesIn clip.sheet clip.source ∨
        key.LiesIn sheet (clip.target corner)) ∧ cellIn wb.sheets key ≠ none) ∧
      pasteClip clip sheet corner wb =
        .ok (clip.target corner) (afterPasting wb clip sheet corner cleared) := by
  obtain ⟨⟨ws, hws, hrange⟩, hsource⟩ := hfits
  obtain ⟨there, hthere, hthereGrid, hthereMem⟩ :=
    @storedIn_ok wb ws sheet (clip.target corner) h hws
  rw [pasteClip_eq hws hrange]
  by_cases hcut : clip.mode = .cut
  · obtain ⟨source, hsource⟩ := Option.ne_none_iff_exists'.mp (hsource hcut)
    obtain ⟨left, hleft, hleftGrid, hleftMem⟩ :=
      @storedIn_ok wb source clip.sheet clip.source h hsource
    have hcleared := List.forall_mem_append.mpr ⟨hleftGrid, hthereGrid⟩
    simp only [if_pos hcut]
    refine ⟨left ++ there, inGrid_pasted hclip hws hrange hcleared, fun key => ?_,
      (bind_ok hleft).trans (pasteOver_ok hclip hws hrange hthere hcleared)⟩
    rw [List.mem_append, hleftMem, hthereMem, ← or_and_right]
    simp only [hcut, true_and]
  · simp only [if_neg hcut]
    refine ⟨there, inGrid_pasted hclip hws hrange hthereGrid, fun key => ?_,
      @pasteOver_ok _ _ _ _ _ hclip hws hrange [] there hthere hthereGrid⟩
    rw [hthereMem]
    simp only [hcut, false_and, false_or]

/-- A clip that does not fit is refused before anything changes. -/
theorem pasteClip_error (hnot : ¬clip.Fits sheet corner wb) :
    ∃ e, pasteClip clip sheet corner wb = .error e wb := by
  cases hws : wb.sheets[sheet]? with
  | none => exact ⟨_, bind_error (getSheet_error hws)⟩
  | some ws =>
    cases hrange : ws.containsRange (clip.target corner) with
    | false =>
      refine ⟨.invalidRange (.pasteBeyondSheet corner ws.name),
        (bind_ok (getSheet_ok hws)).trans ?_⟩
      simp only [hrange, Bool.not_false, if_true]
      rfl
    | true =>
      obtain ⟨hcut, hsource⟩ : clip.mode = .cut ∧ wb.sheets[clip.sheet]? = none := by
        by_contra hfound
        exact hnot ⟨⟨ws, hws, hrange⟩, fun hcut hsource => hfound ⟨hcut, hsource⟩⟩
      rw [pasteClip_eq hws hrange]
      simp only [if_pos hcut]
      exact ⟨_, bind_error (bind_error (getSheet_error hsource))⟩

/-- Pasting is nothing but putting cells into the grid. -/
theorem writes_pasteClip (h : wb.WellFormed) (hclip : clip.Taken) (sheet : Nat)
    (corner : CellRef) : (pasteClip clip sheet corner).Writes wb fun _ => True := by
  by_cases hfits : clip.Fits sheet corner wb
  · obtain ⟨cleared, hin, -, hok⟩ := exists_pasteClip h hclip hfits
    refine .inr (.inr ⟨_, _, _, fun x hx => ⟨hin x hx, trivial, ?_⟩, hok⟩)
    rcases List.mem_append.mp hx with hx | hx
    · obtain ⟨key, hkey, rfl⟩ := List.mem_map.mp hx
      exact List.mem_append_left _ hkey
    · exact List.mem_append_right _ (List.mem_map_of_mem hx)
  · exact .inl (pasteClip_error hfits)

/-- Pasting from a clipboard; an empty one changes nothing. -/
theorem writes_pasteFrom {clipboard : Clipboard} (h : wb.WellFormed)
    (hclip : ∀ clip ∈ clipboard, clip.Taken) (sheet : Nat) (corner : CellRef) :
    (pasteFrom clipboard sheet corner).Writes wb fun _ => True := by
  cases clipboard with
  | none => exact .inr (.inl ⟨none, rfl⟩)
  | some clip => exact (writes_pasteClip h (hclip clip rfl) sheet corner).map_pure some

end Pasting

end Edit

end Gridcalc
