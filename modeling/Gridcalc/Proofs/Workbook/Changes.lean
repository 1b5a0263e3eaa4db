import Gridcalc.Proofs.Sheet.WellFormed
import Gridcalc.Proofs.Workbook.Pass
import Gridcalc.Workbook.Cells

/-!
# Changes of single cells

The two ways in which the operations change a stored cell, apart from storing results.

* `Workbook.put`: other contents, whose formula is read at once;
* `Workbook.restyle`: another style, which is no matter of formulas;
* `cellIn_put`, `cellIn_restyle` say what is stored afterwards; frames stay.
-/

namespace Gridcalc

/-! ## 1. Replaced sheets -/

namespace Workbook

variable {wb : Workbook} {key k : CellKey} {cell : Cell} {ws : Worksheet}

@[simp] theorem sheets_withSheet (wb : Workbook) (i : Nat) (ws : Worksheet) :
    (wb.withSheet i ws).sheets = wb.sheets.set i ws := by
  refine List.ext_getElem? fun j => ?_
  simp only [sheets, withSheet, List.getElem?_map, List.getElem?_set, List.getElem?_modify,
    List.length_map]
  by_cases hj : i = j
  · subst hj
    cases htab : wb.tabs[i]? with
    | none => simp [List.getElem?_eq_none_iff.mp htab]
    | some tab => simp [(List.getElem?_eq_some_iff.mp htab).1]
  · simp [hj]

theorem batchAt_withSheet (wb : Workbook) (i j : Nat) (ws : Worksheet) :
    (wb.withSheet i ws).batchAt j = wb.batchAt j := by
  unfold batchAt withSheet
  rw [List.getElem?_modify]
  cases wb.tabs[j]? with
  | none => rfl
  | some tab =>
    simp only [Option.map_eq_map, Option.map_some]
    split <;> rfl

theorem batchAt_register (wb : Workbook) (key : CellKey) (j : Nat) :
    (wb.register key).batchAt j = wb.batchAt j := by
  simp only [batchAt, register_tabs]

theorem lt_of_getElem?_sheets {i : Nat} (hws : wb.sheets[i]? = some ws) : i < wb.tabs.length := by
  simpa [sheets] using (List.getElem?_eq_some_iff.mp hws).1

/-- Whether a key lies in the grid of its sheet. -/
def InGrid (wb : Workbook) (key : CellKey) : Prop :=
  ∃ ws, wb.sheets[key.sheet]? = some ws ∧ ws.inBounds key.row key.col = true

theorem InGrid.of_sameFrames {wb' : Workbook} (h : wb.InGrid key)
    (hf : SameFrames wb.sheets wb'.sheets) : wb'.InGrid key := by
  obtain ⟨ws, hws, hin⟩ := h
  obtain ⟨ws', hws', hframe⟩ := hf.getElem? hws
  exact ⟨ws', hws', inBounds_of_frame hframe _ _ ▸ hin⟩

end Workbook

/-! ## 2. Other contents -/

/-- A sheet with a cell in a place; a blank one is taken out. -/
def Worksheet.putCell (ws : Worksheet) (row col : Nat) (cell : Cell) : Worksheet :=
  { ws with store := ws.store.set row col cell }

theorem Worksheet.frame_putCell (ws : Worksheet) (row col : Nat) (cell : Cell) :
    (ws.putCell row col cell).frame = ws.frame := by
  simp only [Worksheet.frame, Worksheet.putCell, CellStore.hidden_set]

namespace Workbook

variable {wb : Workbook} {key k : CellKey} {cell : Cell} {ws : Worksheet}

/-- The workbook with a cell in a place, its formula read. -/
def put (wb : Workbook) (key : CellKey) (cell : Cell) : Workbook :=
  match wb.sheets[key.sheet]? with
  | none => wb
  | some ws => (wb.withSheet key.sheet (ws.putCell key.row key.col cell)).register key

theorem put_eq (h : wb.sheets[key.sheet]? = some ws) (cell : Cell) :
    wb.put key cell = (wb.withSheet key.sheet (ws.putCell key.row key.col cell)).register key := by
  simp only [put, h]

theorem sheets_put (h : wb.sheets[key.sheet]? = some ws) (cell : Cell) :
    (wb.put key cell).sheets = wb.sheets.set key.sheet (ws.putCell key.row key.col cell) := by
  rw [put_eq h, register_sheets, sheets_withSheet]

theorem sameFrames_put (wb : Workbook) (key : CellKey) (cell : Cell) :
    SameFrames (wb.put key cell).sheets wb.sheets := by
  cases hws : wb.sheets[key.sheet]? with
  | none => simp only [put, hws]; exact .refl _
  | some ws =>
    rw [sheets_put hws]
    exact .set hws (ws.frame_putCell _ _ _)

/-- **What is stored after a cell was put in a place.** -/
theorem cellIn_put (h : wb.InGrid key) (cell : Cell) (k : CellKey) :
    cellIn (wb.put key cell).sheets k =
      if key = k then cell.unlessBlank else cellIn wb.sheets k := by
  obtain ⟨ws, hws, -⟩ := h
  obtain ⟨hlen, -⟩ := List.getElem?_eq_some_iff.mp hws
  rw [sheets_put hws, cellIn_set]
  obtain ⟨i, row, col⟩ := key
  obtain ⟨j, r, c⟩ := k
  simp only [CellKey.mk.injEq] at hws hlen ⊢
  by_cases hi : i = j
  · subst hi
    simp only [hlen, true_and, if_true]
    have hget := CellStore.get?_set ws.store row col r c cell
    refine hget.trans ?_
    split
    · rfl
    · rw [cellIn_eq hws]
      rfl
  · simp [hi]

theorem batchAt_put (wb : Workbook) (key : CellKey) (cell : Cell) (j : Nat) :
    (wb.put key cell).batchAt j = wb.batchAt j := by
  unfold put
  split
  · rfl
  · rw [batchAt_register, batchAt_withSheet]

/-- What is known of the other formulas stays known. -/
theorem put_exactAt (h : wb.InGrid key) (cell : Cell)
    (hk : k ≠ key → wb.calcState.ExactAt wb.sheets k) :
    (wb.put key cell).calcState.ExactAt (wb.put key cell).sheets k := by
  have hin := h
  obtain ⟨ws, hws, -⟩ := h
  have hframes := sameFrames_put wb key cell
  have hcell := cellIn_put hin cell k
  rw [put_eq hws] at hframes hcell ⊢
  by_cases he : k = key
  · subst he
    rw [register_sheets]
    exact register_exactAt _ k
  · rw [if_neg fun e => he e.symm] at hcell
    have hformula : formulaIn wb.sheets k =
        formulaIn (wb.withSheet key.sheet (ws.putCell key.row key.col cell)).sheets k := by
      rw [formulaIn, formulaIn, ← hcell, register_sheets]
    rw [register_sheets] at hframes ⊢
    exact register_exactAt_of_ne ((hk he).congr hframes.symm hformula) he

end Workbook

/-! ## 3. Another style -/

/-- A sheet with a cell in another style; what is blank then is taken out. -/
def Worksheet.restyled (ws : Worksheet) (row col style : Nat) : Worksheet :=
  let store := (ws.store.touch row col).modify row col (·.withStyle style)
  { ws with store := match store.get? row col with
    | some cell => store.set row col cell
    | none => store }

section Restyled

variable {ws : Worksheet} {row col style : Nat}

theorem get?_restyled (ws : Worksheet) (row col style r c : Nat) :
    (ws.restyled row col style).get? r c =
      if row = r ∧ col = c then
        (((ws.get? r c).getD {}).withStyle style).unlessBlank
      else ws.get? r c := by
  have hstyled : ((ws.store.touch row col).modify row col (·.withStyle style)).get? row col =
      some (((ws.get? row col).getD {}).withStyle style) := by
    rw [CellStore.get?_modify, if_pos ⟨rfl, rfl⟩, CellStore.get?_touch, if_pos ⟨rfl, rfl⟩]
    rfl
  simp only [Worksheet.restyled, hstyled]
  refine (CellStore.get?_set _ _ _ _ _ _).trans ?_
  by_cases he : row = r ∧ col = c
  · obtain ⟨rfl, rfl⟩ := he
    simp only [and_self, if_true]
    rfl
  · rw [if_neg he, if_neg he, CellStore.get?_modify, if_neg he, CellStore.get?_touch, if_neg he]
    rfl

theorem frame_restyled (ws : Worksheet) (row col style : Nat) :
    (ws.restyled row col style).frame = ws.frame := by
  unfold Worksheet.restyled Worksheet.frame
  dsimp only
  split
  · simp only [CellStore.hidden_set, CellStore.hidden_modify, CellStore.hidden_touch]
  · simp only [CellStore.hidden_modify, CellStore.hidden_touch]

/-- A restyled cell is stored in the grid, unless it is blank then. -/
theorem Worksheet.WellFormed.restyled (h : ws.WellFormed) (hin : ws.inBounds row col = true)
    (style : Nat) : (ws.restyled row col style).WellFormed := by
  have hhidden : (ws.restyled row col style).store.hidden = ws.store.hidden := by
    have e := congrArg (fun f : Worksheet => f.store.hidden) (frame_restyled ws row col style)
    exact e
  refine h.withStore (fun r c stored hs => ?_) fun r hr => h.hidden_lt r (hhidden ▸ hr)
  have hs' : (ws.restyled row col style).get? r c = some stored := hs
  rw [get?_restyled] at hs'
  split at hs'
  · rename_i he
    obtain ⟨rfl, rfl⟩ := he
    exact ⟨hin, Cell.unlessBlank_eq_some hs'⟩
  · exact ⟨h.bounded r c stored hs', h.not_blank r c stored hs'⟩

end Restyled

namespace Workbook

variable {wb : Workbook} {key k : CellKey} {ws : Worksheet} {style : Nat}

/-- The workbook with a cell in another style. -/
def restyle (wb : Workbook) (key : CellKey) (style : Nat) : Workbook :=
  match wb.sheets[key.sheet]? with
  | none => wb
  | some ws => wb.withSheet key.sheet (ws.restyled key.row key.col style)

theorem sheets_restyle (h : wb.sheets[key.sheet]? = some ws) (style : Nat) :
    (wb.restyle key style).sheets =
      wb.sheets.set key.sheet (ws.restyled key.row key.col style) := by
  simp only [restyle, h, sheets_withSheet]

@[simp] theorem restyle_calcState (wb : Workbook) (key : CellKey) (style : Nat) :
    (wb.restyle key style).calcState = wb.calcState := by
  unfold restyle
  split <;> rfl

theorem sameFrames_restyle (wb : Workbook) (key : CellKey) (style : Nat) :
    SameFrames (wb.restyle key style).sheets wb.sheets := by
  cases hws : wb.sheets[key.sheet]? with
  | none => simp only [restyle, hws]; exact .refl _
  | some ws =>
    rw [sheets_restyle hws]
    exact .set hws (frame_restyled ws _ _ _)

/-- **What is stored after a cell got a style.** -/
theorem cellIn_restyle (h : wb.InGrid key) (style : Nat) (k : CellKey) :
    cellIn (wb.restyle key style).sheets k =
      if key = k then (((cellIn wb.sheets k).getD {}).withStyle style).unlessBlank
      else cellIn wb.sheets k := by
  obtain ⟨ws, hws, -⟩ := h
  obtain ⟨hlen, -⟩ := List.getElem?_eq_some_iff.mp hws
  rw [sheets_restyle hws, cellIn_set]
  obtain ⟨i, row, col⟩ := key
  obtain ⟨j, r, c⟩ := k
  simp only [CellKey.mk.injEq] at hws hlen ⊢
  by_cases hi : i = j
  · subst hi
    simp only [hlen, true_and, if_true]
    rw [get?_restyled, cellIn_eq hws]
  · simp [hi]

/-- A style is no matter of values and formulas. -/
theorem agreeAt_restyle (h : wb.InGrid key) (style : Nat) (k : CellKey) :
    AgreeAt (wb.restyle key style).sheets wb.sheets k := by
  unfold AgreeAt valueIn formulaIn
  rw [cellIn_restyle h]
  split
  · rw [Cell.value_unlessBlank, Cell.formula_unlessBlank]
    cases cellIn wb.sheets k <;> exact ⟨rfl, rfl⟩
  · exact ⟨rfl, rfl⟩

theorem batchAt_restyle (wb : Workbook) (key : CellKey) (style j : Nat) :
    (wb.restyle key style).batchAt j = wb.batchAt j := by
  unfold restyle
  split
  · rfl
  · rw [batchAt_withSheet]

end Workbook

end Gridcalc
