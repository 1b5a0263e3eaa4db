import Gridcalc.Proofs.Sheet.Contents
import Gridcalc.Workbook.Sheets

/-!
# Well-formed sheets

* `Worksheet.Bounded`: every stored cell lies in the grid;
* `Worksheet.Contained`: a size that a sheet can have, with stored cells and hidden rows inside;
* `Worksheet.WellFormed`: the same, and no blank cell stored;
* one lemma for each operation of a sheet that says what it keeps (`WellFormed.set`,
  `WellFormed.mapFormulas`, `Contained.moveRows` and so on).
-/

namespace Gridcalc

/-- A cell with another text of its formula. -/
def Cell.relabelled (cell : Cell) (relabel : String → String) : Cell :=
  { cell with formula := cell.formula.map relabel }

theorem Cell.isBlank_relabelled (cell : Cell) (relabel : String → String) :
    (cell.relabelled relabel).isBlank = cell.isBlank := by
  obtain ⟨formula, value, style⟩ := cell
  cases formula <;> rfl

namespace Worksheet

/-! ## 1. What a well-formed sheet is -/

/-- Every stored cell lies in the grid. -/
def Bounded (ws : Worksheet) : Prop :=
  ∀ row col cell, ws.get? row col = some cell → ws.inBounds row col = true

/-- A sheet of a possible size with everything stored inside of it, blank cells or not. -/
structure Contained (ws : Worksheet) : Prop where
  rows_pos : 1 ≤ ws.rowCount
  rows_le : ws.rowCount ≤ maxRows
  cols_pos : 1 ≤ ws.colCount
  cols_le : ws.colCount ≤ maxColumns
  bounded : ws.Bounded
  hidden_lt : ∀ row ∈ ws.store.hidden, row < ws.rowCount

/-- A sheet of a possible size, with everything stored inside of it and nothing blank stored. -/
structure WellFormed (ws : Worksheet) : Prop where
  rows_pos : 1 ≤ ws.rowCount
  rows_le : ws.rowCount ≤ maxRows
  cols_pos : 1 ≤ ws.colCount
  cols_le : ws.colCount ≤ maxColumns
  bounded : ws.Bounded
  hidden_lt : ∀ row ∈ ws.store.hidden, row < ws.rowCount
  not_blank : ∀ row col cell, ws.get? row col = some cell → cell.isBlank = false

variable {ws ws' : Worksheet} {row col : Nat} {cell : Cell}

theorem WellFormed.contained (h : ws.WellFormed) : ws.Contained :=
  ⟨h.rows_pos, h.rows_le, h.cols_pos, h.cols_le, h.bounded, h.hidden_lt⟩

theorem Contained.wellFormed (h : ws.Contained)
    (hcells : ∀ row col cell, ws.get? row col = some cell → cell.isBlank = false) : ws.WellFormed :=
  ⟨h.rows_pos, h.rows_le, h.cols_pos, h.cols_le, h.bounded, h.hidden_lt, hcells⟩

theorem inBounds_iff : ws.inBounds row col = true ↔ row < ws.rowCount ∧ col < ws.colCount := by
  simp only [inBounds, Bool.and_eq_true, decide_eq_true_eq]

/-- Outside of the grid there is no value. -/
theorem Bounded.valueAt_eq_empty (h : ws.Bounded) (hout : ws.inBounds row col = false) :
    ws.valueAt row col = .empty := by
  unfold valueAt value?
  cases hc : ws.get? row col with
  | none => rfl
  | some cell =>
    have hin := h row col cell hc
    rw [hout] at hin
    cases hin

/-- A new sheet is well-formed, whatever size is asked for. -/
theorem wellFormed_create (name : String) (rows cols : Nat) :
    (create name rows cols).WellFormed where
  rows_pos := by simp only [create]; omega
  rows_le := by simp only [create, maxRows]; omega
  cols_pos := by simp only [create]; omega
  cols_le := by simp only [create, maxColumns]; omega
  bounded := by
    intro row col cell h
    simp [create, get?, CellStore.get?] at h
  hidden_lt := by
    intro row h
    simp [create] at h
  not_blank := by
    intro row col cell h
    simp [create, get?, CellStore.get?] at h

/-- Another store in the same frame, with every cell inside and none of them blank. -/
theorem WellFormed.withStore (h : ws.WellFormed) {store : CellStore}
    (hcells : ∀ row col cell, store.get? row col = some cell →
      ws.inBounds row col = true ∧ cell.isBlank = false)
    (hhidden : ∀ row ∈ store.hidden, row < ws.rowCount) : { ws with store }.WellFormed where
  rows_pos := h.rows_pos
  rows_le := h.rows_le
  cols_pos := h.cols_pos
  cols_le := h.cols_le
  bounded row col cell hc := (hcells row col cell hc).1
  hidden_lt := hhidden
  not_blank row col cell hc := (hcells row col cell hc).2

/-! ## 2. One cell -/

/-- A cell that is not blank is stored in the grid. -/
theorem WellFormed.set (h : ws.WellFormed) (hin : ws.inBounds row col = true) (cell : Cell) :
    { ws with store := ws.store.set row col cell }.WellFormed := by
  refine h.withStore (fun r c stored hs => ?_) fun r hr => ?_
  · rw [CellStore.get?_set] at hs
    split at hs
    · rename_i he
      obtain ⟨rfl, rfl⟩ := he
      split at hs
      · cases hs
      · rename_i hblank
        cases hs
        exact ⟨hin, Bool.eq_false_iff.mpr hblank⟩
    · exact ⟨h.bounded r c stored hs, h.not_blank r c stored hs⟩
  · rw [CellStore.hidden_set] at hr
    exact h.hidden_lt r hr

/-- A stored cell gets a value. -/
theorem WellFormed.setCached (h : ws.WellFormed) (row col : Nat) {v : Value} (hv : v ≠ .empty) :
    (ws.setCached row col v).WellFormed := by
  refine h.withStore (fun r c stored hs => ?_) fun r hr => ?_
  · rw [CellStore.get?_modify] at hs
    split at hs
    · obtain ⟨old, hold, rfl⟩ := Option.map_eq_some_iff.mp hs
      refine ⟨h.bounded r c old hold, ?_⟩
      cases v <;> simp_all [Cell.isBlank, Cell.withValue, Value.isEmpty]
    · exact ⟨h.bounded r c stored hs, h.not_blank r c stored hs⟩
  · rw [CellStore.hidden_modify] at hr
    exact h.hidden_lt r hr

/-! ## 3. Hidden rows and names -/

theorem WellFormed.setHidden (h : ws.WellFormed) {hide : Bool}
    (hs : ws.setHidden row hide = .ok ws') : ws'.WellFormed := by
  unfold Worksheet.setHidden at hs
  split at hs
  · cases hs
  · rename_i hrow
    cases hs
    refine h.withStore (fun r c stored hs => ?_) fun r hr => ?_
    · exact ⟨h.bounded r c stored hs, h.not_blank r c stored hs⟩
    · simp only [CellStore.setHidden] at hr
      split at hr
      · rw [Std.ExtTreeSet.mem_insert, Std.compare_eq_iff_eq] at hr
        rcases hr with rfl | hr
        · omega
        · exact h.hidden_lt r hr
      · exact h.hidden_lt r (Std.ExtTreeSet.mem_of_mem_erase hr)

/-- Hiding a row changes nothing but the hidden rows. -/
theorem setHidden_keeps {hide : Bool} (hs : ws.setHidden row hide = .ok ws') :
    ws'.name = ws.name ∧ ws'.outline = ws.outline ∧ ∀ r c, ws'.get? r c = ws.get? r c := by
  unfold Worksheet.setHidden at hs
  split at hs
  · cases hs
  · cases hs
    exact ⟨rfl, rfl, fun _ _ => rfl⟩

theorem WellFormed.rename (h : ws.WellFormed) (name : String) : { ws with name }.WellFormed :=
  ⟨h.rows_pos, h.rows_le, h.cols_pos, h.cols_le, h.bounded, h.hidden_lt, h.not_blank⟩

/-! ## 4. Formula texts -/

/-- What is stored after every formula text was changed. -/
theorem get?_mapFormulas (ws : Worksheet) (f : String → String) (row col : Nat) :
    (ws.mapFormulas f).get? row col = (ws.get? row col).map fun cell => cell.relabelled f := by
  simp only [Worksheet.mapFormulas, Worksheet.get?, CellStore.get?, Std.ExtTreeMap.getElem?_map]
  cases ws.store.rows[row]? with
  | none => rfl
  | some cells => simp [Cell.relabelled]

theorem WellFormed.mapFormulas (h : ws.WellFormed) (f : String → String) :
    (ws.mapFormulas f).WellFormed := by
  refine h.withStore (fun r c stored hs => ?_) h.hidden_lt
  have hs' : (ws.mapFormulas f).get? r c = some stored := hs
  rw [get?_mapFormulas] at hs'
  obtain ⟨old, hold, rfl⟩ := Option.map_eq_some_iff.mp hs'
  refine ⟨h.bounded r c old hold, ?_⟩
  rw [Cell.isBlank_relabelled]
  exact h.not_blank r c old hold

theorem tight_mapFormulas (h : ws.store.Tight) (f : String → String) :
    (ws.mapFormulas f).store.Tight := by
  intro row hrow
  simp only [Worksheet.mapFormulas, Std.ExtTreeMap.getElem?_map] at hrow
  obtain ⟨cells, hcells, he⟩ := Option.map_eq_some_iff.mp hrow
  have hempty : cells = ∅ := Std.ExtTreeMap.map_eq_empty_iff.mp he
  exact h row (hempty ▸ hcells)

/-! ## 5. Moving lines -/

/-- A sheet with moved rows, if every row that is kept has its place in the new size. -/
theorem Contained.moveRows (h : ws.Contained) {size : Nat} {place : Nat → Option Nat}
    (hpos : 1 ≤ size) (hle : size ≤ maxRows)
    (hplace : ∀ line line', line < ws.rowCount → place line = some line' → line' < size) :
    { ws with store := ws.store.moveRows place, rowCount := size }.Contained where
  rows_pos := hpos
  rows_le := hle
  cols_pos := h.cols_pos
  cols_le := h.cols_le
  bounded := by
    intro row col cell hc
    obtain ⟨row₀, hp, hc₀⟩ := CellStore.get?_moveRows hc
    have hin := inBounds_iff.mp (h.bounded row₀ col cell hc₀)
    exact inBounds_iff.mpr ⟨hplace _ _ hin.1 hp, hin.2⟩
  hidden_lt := by
    intro row hr
    obtain ⟨row₀, hp, hr₀⟩ := CellStore.mem_moveMembers.mp hr
    exact hplace _ _ (h.hidden_lt row₀ hr₀) hp

/-- A sheet with moved columns, if every column that is kept has its place in the new size. -/
theorem Contained.moveColumns (h : ws.Contained) {size : Nat} {place : Nat → Option Nat}
    (hpos : 1 ≤ size) (hle : size ≤ maxColumns)
    (hplace : ∀ line line', line < ws.colCount → place line = some line' → line' < size) :
    { ws with store := ws.store.moveColumns place, colCount := size }.Contained where
  rows_pos := h.rows_pos
  rows_le := h.rows_le
  cols_pos := hpos
  cols_le := hle
  bounded := by
    intro row col cell hc
    obtain ⟨col₀, hp, hc₀⟩ := CellStore.get?_moveColumns hc
    have hin := inBounds_iff.mp (h.bounded row col₀ cell hc₀)
    exact inBounds_iff.mpr ⟨hin.1, hplace _ _ hin.2 hp⟩
  hidden_lt := h.hidden_lt

end Worksheet

end Gridcalc
