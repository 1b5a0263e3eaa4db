import Gridcalc.Dependency.Precedents
import Gridcalc.Proofs.Address.Traversal
import Gridcalc.Proofs.Sheet.Store

/-!
# What a list of sheets holds

The contents of all sheets as one table over `CellKey`, apart from the frames around them.

* `cellIn`, `valueIn`, `formulaIn`: what is stored at a key;
* `Worksheet.frame`: a sheet without its cells, and `SameFrames`: two lists of sheets with the same
  names, sizes and hidden rows;
* `precedentsOf_eq`: what a formula reads is a matter of the frames alone;
* `AgreeAt`: two lists of sheets hold the same value and formula at a key.
-/

namespace Gridcalc

/-! ## 1. The contents -/

/-- The cell stored at a key. -/
def cellIn (sheets : List Worksheet) (key : CellKey) : Option Cell :=
  (sheets[key.sheet]?).bind fun ws => ws.get? key.row key.col

/-- The value at a key; no value where no cell is stored. -/
def valueIn (sheets : List Worksheet) (key : CellKey) : Value :=
  ((cellIn sheets key).map Cell.value).getD .empty

/-- The formula at a key. -/
def formulaIn (sheets : List Worksheet) (key : CellKey) : Option String :=
  (cellIn sheets key).bind Cell.formula

/-- A cell as it is stored: a blank one is not. -/
def Cell.unlessBlank (cell : Cell) : Option Cell := if cell.isBlank then none else some cell

theorem Cell.unlessBlank_eq_some {cell stored : Cell} (h : cell.unlessBlank = some stored) :
    stored.isBlank = false := by
  unfold Cell.unlessBlank at h
  split at h
  · cases h
  · rename_i hb
    rw [← Option.some.inj h]
    exact Bool.eq_false_iff.mpr hb

/-- Nothing is lost with a blank cell. -/
theorem Cell.value_unlessBlank (cell : Cell) :
    (cell.unlessBlank.map Cell.value).getD .empty = cell.value := by
  unfold Cell.unlessBlank
  split
  · rename_i hb
    rw [Cell.isBlank_iff.mp hb]
    rfl
  · rfl

theorem Cell.formula_unlessBlank (cell : Cell) :
    cell.unlessBlank.bind Cell.formula = cell.formula := by
  unfold Cell.unlessBlank
  split
  · rename_i hb
    rw [Cell.isBlank_iff.mp hb]
    rfl
  · rfl

section Contents

variable {sheets sheets' : List Worksheet} {ws : Worksheet} {i row col : Nat}

theorem cellIn_eq (h : sheets[i]? = some ws) : cellIn sheets ⟨i, row, col⟩ = ws.get? row col := by
  simp [cellIn, h]

theorem valueIn_eq (h : sheets[i]? = some ws) :
    valueIn sheets ⟨i, row, col⟩ = ws.valueAt row col := by
  simp [valueIn, cellIn_eq h, Worksheet.valueAt, Worksheet.value?]

theorem formulaIn_eq (h : sheets[i]? = some ws) :
    formulaIn sheets ⟨i, row, col⟩ = ws.formulaAt? row col := by
  simp [formulaIn, cellIn_eq h, Worksheet.formulaAt?]

/-- The contents after one sheet was replaced. -/
theorem cellIn_set (sheets : List Worksheet) (i : Nat) (ws : Worksheet) (key : CellKey) :
    cellIn (sheets.set i ws) key =
      if i = key.sheet ∧ i < sheets.length then ws.get? key.row key.col
      else cellIn sheets key := by
  unfold cellIn
  rw [List.getElem?_set]
  by_cases hi : i = key.sheet
  · subst hi
    by_cases hl : key.sheet < sheets.length
    · simp [hl]
    · simp [hl]
  · simp [hi]

end Contents

/-! ## 2. Frames -/

/-- A sheet without its cells. -/
def Worksheet.frame (ws : Worksheet) : Worksheet :=
  { ws with store := { hidden := ws.store.hidden } }

/-- The same names, sizes and hidden rows. -/
def SameFrames (sheets sheets' : List Worksheet) : Prop :=
  sheets.map Worksheet.frame = sheets'.map Worksheet.frame

section Frames

variable {sheets sheets' : List Worksheet} {ws ws' : Worksheet} {i home : Nat}

theorem inBounds_of_frame (h : ws.frame = ws'.frame) (row col : Nat) :
    ws.inBounds row col = ws'.inBounds row col := by
  have e := congrArg (fun f : Worksheet => f.inBounds row col) h
  exact e

theorem isHidden_of_frame (h : ws.frame = ws'.frame) (row : Nat) :
    ws.isHidden row = ws'.isHidden row := by
  have e := congrArg (fun f : Worksheet => f.isHidden row) h
  exact e

theorem SameFrames.refl (sheets : List Worksheet) : SameFrames sheets sheets := rfl

theorem SameFrames.symm (h : SameFrames sheets sheets') : SameFrames sheets' sheets := Eq.symm h

theorem SameFrames.length_eq (h : SameFrames sheets sheets') : sheets.length = sheets'.length := by
  simpa using congrArg List.length h

/-- Sheets in the same place have the same frame. -/
theorem SameFrames.getElem? (h : SameFrames sheets sheets') (hi : sheets[i]? = some ws) :
    ∃ ws', sheets'[i]? = some ws' ∧ ws.frame = ws'.frame := by
  have h' := congrArg (fun l : List Worksheet => l[i]?) h
  simp only [List.getElem?_map, hi, Option.map_some] at h'
  obtain ⟨ws', hi', hf⟩ := Option.map_eq_some_iff.mp h'.symm
  exact ⟨ws', hi', hf.symm⟩

theorem sameFrames_iff :
    SameFrames sheets sheets' ↔
      ∀ i : Nat, (sheets[i]?).map Worksheet.frame = (sheets'[i]?).map Worksheet.frame := by
  unfold SameFrames
  constructor
  · intro h i
    have h' := congrArg (fun l : List Worksheet => l[i]?) h
    simpa using h'
  · intro h
    refine List.ext_getElem? fun i => ?_
    simpa using h i

/-- Replacing a sheet by one that a function cannot tell from it. -/
theorem map_set_of_eq {α : Type} {f : Worksheet → α} (hi : sheets[i]? = some ws)
    (h : f ws' = f ws) : (sheets.set i ws').map f = sheets.map f := by
  refine List.ext_getElem? fun j => ?_
  rw [List.getElem?_map, List.getElem?_map, List.getElem?_set]
  by_cases hj : i = j
  · subst hj
    obtain ⟨hl, -⟩ := List.getElem?_eq_some_iff.mp hi
    rw [if_pos rfl, if_pos hl, hi, Option.map_some, Option.map_some, h]
  · rw [if_neg hj]

/-- A replaced sheet with the same frame makes no difference to the frames. -/
theorem SameFrames.set (hi : sheets[i]? = some ws) (hf : ws'.frame = ws.frame) :
    SameFrames (sheets.set i ws') sheets := map_set_of_eq hi hf

/-- Which sheet a reference means is a matter of the names alone. -/
theorem sheetOfReference?_eq_of_names (h : sheets.map Worksheet.name = sheets'.map Worksheet.name)
    (home : Nat) (name : Option String) :
    sheetOfReference? sheets home name = sheetOfReference? sheets' home name := by
  cases name with
  | none =>
    have hlen : sheets.length = sheets'.length := by simpa using congrArg List.length h
    rw [sheetOfReference?, hlen, sheetOfReference?]
  | some name =>
    have hnames : ∀ sheets : List Worksheet, sheetNamed? sheets name =
        (sheets.map Worksheet.name).findIdx? fun n => Text.sameIgnoringCase n name := fun _ => by
      rw [List.findIdx?_map]
      rfl
    rw [sheetOfReference?, hnames, h, ← hnames, sheetOfReference?]

/-- A sheet without its cells and hidden rows. -/
def Worksheet.outline (ws : Worksheet) : Worksheet := { ws with store := {} }

theorem outline_outline (ws : Worksheet) : ws.outline.outline = ws.outline := rfl

theorem outline_frame (ws : Worksheet) : ws.frame.outline = ws.outline := rfl

section Outlines

variable {f : Worksheet → Worksheet} (hf : ∀ ws, (f ws).outline = ws.outline)

include hf

theorem sheetOfReference?_map (sheets : List Worksheet) (home : Nat) (name : Option String) :
    sheetOfReference? (sheets.map f) home name = sheetOfReference? sheets home name := by
  refine sheetOfReference?_eq_of_names ?_ home name
  rw [List.map_map]
  refine List.map_congr_left fun ws _ => ?_
  have e := congrArg Worksheet.name (hf ws)
  exact e

theorem Reference.precedents_map (sheets : List Worksheet) (home : Nat) (r : Reference) :
    r.precedents (sheets.map f) home = r.precedents sheets home := by
  have hrows : ∀ ws, (f ws).rowCount = ws.rowCount := fun ws => by
    have e := congrArg Worksheet.rowCount (hf ws)
    exact e
  have hcols : ∀ ws, (f ws).colCount = ws.colCount := fun ws => by
    have e := congrArg Worksheet.colCount (hf ws)
    exact e
  unfold Reference.precedents
  rw [sheetOfReference?_map hf]
  cases sheetOfReference? sheets home r.sheet with
  | none => rfl
  | some i =>
    simp only [List.getElem?_map]
    cases sheets[i]? with
    | none => rfl
    | some ws => simp only [Option.map_some, hrows, hcols]

theorem precedentsOf_map (sheets : List Worksheet) (home : Nat) (e : Expr) :
    precedentsOf (sheets.map f) home e = precedentsOf sheets home e := by
  exact congrArg (e.references.flatMap ·)
    (funext fun r => Reference.precedents_map hf sheets home r)

end Outlines

theorem inBounds_of_outline (h : ws.outline = ws'.outline) (row col : Nat) :
    ws.inBounds row col = ws'.inBounds row col := by
  have e := congrArg (fun f : Worksheet => f.inBounds row col) h
  exact e

theorem getElem?_of_outlines (h : sheets.map Worksheet.outline = sheets'.map Worksheet.outline)
    (hi : sheets[i]? = some ws) : ∃ ws', sheets'[i]? = some ws' ∧ ws.outline = ws'.outline := by
  have h' := congrArg (fun l : List Worksheet => l[i]?) h
  simp only [List.getElem?_map, hi, Option.map_some] at h'
  obtain ⟨ws', hi', hf⟩ := Option.map_eq_some_iff.mp h'.symm
  exact ⟨ws', hi', hf.symm⟩

/-- References mean the same sheets. -/
theorem sheetOfReference?_eq_of_outlines
    (h : sheets.map Worksheet.outline = sheets'.map Worksheet.outline) (home : Nat)
    (name : Option String) :
    sheetOfReference? sheets home name = sheetOfReference? sheets' home name := by
  rw [← sheetOfReference?_map outline_outline sheets, h, sheetOfReference?_map outline_outline]

/-- **What a formula reads is a matter of the outlines alone.** -/
theorem precedentsOf_eq_of_outlines
    (h : sheets.map Worksheet.outline = sheets'.map Worksheet.outline) (home : Nat) (e : Expr) :
    precedentsOf sheets home e = precedentsOf sheets' home e := by
  rw [← precedentsOf_map outline_outline sheets, h, precedentsOf_map outline_outline]

theorem SameFrames.map_outline_eq (h : SameFrames sheets sheets') :
    sheets.map Worksheet.outline = sheets'.map Worksheet.outline := by
  have e := congrArg (List.map Worksheet.outline) h
  rw [List.map_map, List.map_map] at e
  exact e

theorem SameFrames.sheetOfReference?_eq (h : SameFrames sheets sheets') (home : Nat)
    (name : Option String) :
    sheetOfReference? sheets home name = sheetOfReference? sheets' home name :=
  sheetOfReference?_eq_of_outlines h.map_outline_eq home name

theorem SameFrames.precedentsOf_eq (h : SameFrames sheets sheets') (home : Nat) (e : Expr) :
    precedentsOf sheets home e = precedentsOf sheets' home e :=
  precedentsOf_eq_of_outlines h.map_outline_eq home e

end Frames

/-! ## 3. Reported cells -/

/-- A rectangle that lies in the grid holds positions of the grid only. -/
theorem inBounds_of_contains {ws : Worksheet} {r : RangeRef} {row col : Nat}
    (hr : ws.containsRange r = true) (hin : r.contains row col = true) :
    ws.inBounds row col = true := by
  rw [RangeRef.contains_iff] at hin
  simp only [Worksheet.containsRange, Worksheet.inBounds, Bool.and_eq_true,
    decide_eq_true_eq] at hr ⊢
  omega

/-- The cells of a rectangle in a grid are those that lie in both. -/
theorem RangeRef.mem_clippedTo {r : RangeRef} {rowCount colCount row col : Nat} :
    (row, col) ∈ r.clippedTo rowCount colCount ↔
      r.contains row col = true ∧ row < rowCount ∧ col < colCount := by
  simp only [RangeRef.clippedTo, List.mem_flatMap, List.mem_map, List.mem_range'_1, Prod.mk.injEq,
    RangeRef.contains_iff]
  constructor
  · intro h
    obtain ⟨r', hr, c', hc, rfl, rfl⟩ := h
    omega
  · intro ⟨⟨h1, h2, h3, h4⟩, h5, h6⟩
    exact ⟨row, by omega, col, by omega, rfl, rfl⟩

theorem Reference.mem_precedents {sheets : List Worksheet} {home : Nat} {r : Reference}
    {key : CellKey} :
    key ∈ r.precedents sheets home ↔
      sheetOfReference? sheets home r.sheet = some key.sheet ∧
        ∃ ws, sheets[key.sheet]? = some ws ∧ r.area.contains key.row key.col = true ∧
          ws.inBounds key.row key.col = true := by
  unfold Reference.precedents
  cases hs : sheetOfReference? sheets home r.sheet with
  | none => simp
  | some i =>
    cases hi : sheets[i]? with
    | none =>
      simp only [hi, List.not_mem_nil, Option.some.injEq, false_iff]
      intro h
      obtain ⟨rfl, ws, hw, -⟩ := h
      simp [hi] at hw
    | some ws =>
      obtain ⟨sheet, row, col⟩ := key
      dsimp only
      rw [hi]
      simp only [List.mem_map, Prod.exists, CellKey.mk.injEq, Option.some.injEq]
      constructor
      · intro h
        obtain ⟨r', c', hm, rfl, rfl, rfl⟩ := h
        obtain ⟨hc, hr, hcol⟩ := RangeRef.mem_clippedTo.mp hm
        exact ⟨rfl, ws, hi, hc, by simp [Worksheet.inBounds, hr, hcol]⟩
      · intro h
        obtain ⟨rfl, ws', hw, hc, hb⟩ := h
        rw [hi] at hw
        obtain rfl := Option.some.inj hw
        simp only [Worksheet.inBounds, Bool.and_eq_true, decide_eq_true_eq] at hb
        exact ⟨row, col, RangeRef.mem_clippedTo.mpr ⟨hc, hb⟩, rfl, rfl, rfl⟩

theorem mem_precedentsOf {sheets : List Worksheet} {home : Nat} {e : Expr} {key : CellKey} :
    key ∈ precedentsOf sheets home e ↔
      ∃ r ∈ e.references, key ∈ r.precedents sheets home := by
  simp [precedentsOf]

/-! ## 4. Agreement -/

/-- The same value and formula at a key. -/
def AgreeAt (sheets sheets' : List Worksheet) (key : CellKey) : Prop :=
  valueIn sheets key = valueIn sheets' key ∧ formulaIn sheets key = formulaIn sheets' key

theorem AgreeAt.symm {sheets sheets' : List Worksheet} {key : CellKey}
    (h : AgreeAt sheets sheets' key) : AgreeAt sheets' sheets key :=
  ⟨h.1.symm, h.2.symm⟩

theorem agreeAt_of_cellIn {sheets sheets' : List Worksheet} {key : CellKey}
    (h : cellIn sheets key = cellIn sheets' key) : AgreeAt sheets sheets' key := by
  simp [AgreeAt, valueIn, formulaIn, h]

end Gridcalc
