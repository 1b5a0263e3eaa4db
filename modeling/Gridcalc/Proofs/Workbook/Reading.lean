import Gridcalc.Proofs.Dependency.Downstream
import Gridcalc.Proofs.Sheet.Contents
import Gridcalc.Workbook.Recalculation

/-!
# What is known of the formulas

* `treeIn`, `readIn`: the tree of the formula at a key, and the cells it reads;
* `CalcState.ExactAt`: what is known of a key is what stands there;
* `register_exactAt`, `register_exactAt_of_ne`: reading a key makes it exact, and leaves the others
  as they are;
* `readAll_exactAt`: reading every formula anew makes every key exact.
-/

namespace Gridcalc

/-! ## 1. Trees -/

/-- The tree of the formula at a key; none if there is no formula or nothing of it could be read. -/
def treeIn (sheets : List Worksheet) (key : CellKey) : Option Expr :=
  (formulaIn sheets key).bind fun text => (parseFormula text).root

/-- The cells that the formula at a key reads. -/
def readIn (sheets : List Worksheet) (key : CellKey) : List CellKey :=
  ((treeIn sheets key).map (precedentsOf sheets key.sheet)).getD []

theorem mem_readIn {sheets : List Worksheet} {key p : CellKey} :
    p ∈ readIn sheets key ↔
      ∃ e, treeIn sheets key = some e ∧ p ∈ precedentsOf sheets key.sheet e := by
  unfold readIn
  cases treeIn sheets key <;> simp

theorem treeIn_congr {sheets sheets' : List Worksheet} {key : CellKey}
    (h : formulaIn sheets key = formulaIn sheets' key) :
    treeIn sheets key = treeIn sheets' key := by
  rw [treeIn, h, treeIn]

theorem readIn_congr {sheets sheets' : List Worksheet} {key : CellKey}
    (hs : sheets.map Worksheet.outline = sheets'.map Worksheet.outline)
    (h : formulaIn sheets key = formulaIn sheets' key) :
    readIn sheets key = readIn sheets' key := by
  unfold readIn
  rw [treeIn_congr h]
  cases treeIn sheets' key with
  | none => rfl
  | some e => simp only [Option.map_some, precedentsOf_eq_of_outlines hs]

namespace Workbook

theorem sheet?_eq (wb : Workbook) (i : Nat) : wb.sheet? i = wb.sheets[i]? := by
  simp [sheet?, sheets]

theorem formulaText?_eq (wb : Workbook) (key : CellKey) :
    wb.formulaText? key = formulaIn wb.sheets key := by
  unfold formulaText? formulaIn cellIn
  rw [sheet?_eq]
  cases wb.sheets[key.sheet]? <;> rfl

theorem register_tabs (wb : Workbook) (key : CellKey) : (wb.register key).tabs = wb.tabs := by
  unfold register
  split <;> rfl

@[simp] theorem register_sheets (wb : Workbook) (key : CellKey) :
    (wb.register key).sheets = wb.sheets := by
  simp only [sheets, register_tabs]

end Workbook

/-! ## 2. Exactness -/

/-- What is known of a key is what stands there. -/
structure CalcState.ExactAt (state : CalcState) (sheets : List Worksheet) (key : CellKey) :
    Prop where
  formulas : state.formulas[key]? =
    (formulaIn sheets key).map fun text => (parseFormula text).root
  precedents : ∀ p, p ∈ state.graph.precedents key ↔ p ∈ readIn sheets key
  volatile : key ∈ state.volatile ↔ ∃ e, treeIn sheets key = some e ∧ e.isVolatile = true

namespace CalcState.ExactAt

variable {state : CalcState} {sheets sheets' : List Worksheet} {key : CellKey}

/-- Exactness is a matter of the outlines and of the formula at the key. -/
theorem of_outlines (h : state.ExactAt sheets key)
    (hs : sheets.map Worksheet.outline = sheets'.map Worksheet.outline)
    (hkey : formulaIn sheets key = formulaIn sheets' key) : state.ExactAt sheets' key where
  formulas := by rw [h.formulas, hkey]
  precedents p := by rw [h.precedents, readIn_congr hs hkey]
  volatile := by rw [h.volatile, treeIn_congr hkey]

theorem congr (h : state.ExactAt sheets key) (hf : SameFrames sheets sheets')
    (hkey : formulaIn sheets key = formulaIn sheets' key) : state.ExactAt sheets' key :=
  h.of_outlines hf.map_outline_eq hkey

/-- The tree that is known of a formula. -/
theorem formulas_eq (h : state.ExactAt sheets key) (hf : formulaIn sheets key ≠ none) :
    state.formulas[key]? = some (treeIn sheets key) := by
  obtain ⟨text, ht⟩ := Option.ne_none_iff_exists'.mp hf
  rw [h.formulas, treeIn, ht]
  rfl

/-- The key holds a formula exactly if one is known. -/
theorem contains_iff (h : state.ExactAt sheets key) :
    state.formulas.contains key = true ↔ formulaIn sheets key ≠ none := by
  rw [Std.ExtTreeMap.contains_eq_isSome_getElem?, h.formulas, Option.isSome_map,
    Option.isSome_iff_ne_none]

/-- What is known of a formula is its tree. -/
theorem eq_of_getElem? (h : state.ExactAt sheets key) {root : Option Expr}
    (hroot : state.formulas[key]? = some root) :
    formulaIn sheets key ≠ none ∧ treeIn sheets key = root := by
  have hf : formulaIn sheets key ≠ none := by
    rw [← h.contains_iff, Std.ExtTreeMap.contains_eq_isSome_getElem?, hroot]
    rfl
  exact ⟨hf, Option.some.inj ((h.formulas_eq hf).symm.trans hroot)⟩

theorem reads_iff (h : state.ExactAt sheets key) {p : CellKey} :
    state.graph.Reads key p ↔ p ∈ readIn sheets key :=
  h.precedents p

end CalcState.ExactAt

/-- Where no formula stands, nothing has to be known. -/
theorem CalcState.exactAt_empty {sheets : List Worksheet} {key : CellKey}
    (h : formulaIn sheets key = none) : CalcState.ExactAt {} sheets key := by
  refine ⟨?_, fun p => ?_, ?_⟩
  · rw [h]
    simp
  · simp [readIn, treeIn, h, Graph.precedents, EdgeMap.targets]
  · simp [treeIn, h]

/-! ## 3. Reading one key -/

namespace Workbook

variable {wb : Workbook} {key k : CellKey}

/-- Reading a key makes it exact. -/
theorem register_exactAt (wb : Workbook) (key : CellKey) :
    (wb.register key).calcState.ExactAt wb.sheets key := by
  unfold register
  cases hf : wb.formulaText? key with
  | none =>
    have hnone : formulaIn wb.sheets key = none := by rw [← formulaText?_eq, hf]
    have htree : treeIn wb.sheets key = none := by rw [treeIn, hnone]; rfl
    refine ⟨?_, fun p => ?_, ?_⟩
    · simp [CalcState.forget, hnone]
    · simp [CalcState.forget, Graph.precedents_removePrecedents, readIn, htree]
    · simp [CalcState.forget, htree]
  | some text =>
    have hsome : formulaIn wb.sheets key = some text := by rw [← formulaText?_eq, hf]
    have htree : treeIn wb.sheets key = (parseFormula text).root := by rw [treeIn, hsome]; rfl
    refine ⟨?_, fun p => ?_, ?_⟩
    · simp [CalcState.note, hsome]
    · simp only [CalcState.note, Graph.mem_precedents_setPrecedents, if_true, readIn, htree]
    · simp only [CalcState.note, htree]
      cases hroot : (parseFormula text).root with
      | none => simp
      | some e =>
        simp only [Option.map_some, Option.getD_some, Option.some.injEq, exists_eq_left']
        split
        · rename_i he
          simp [he]
        · rename_i he
          simp [he]

/-- Reading a key changes nothing about the others. -/
theorem register_exactAt_of_ne (h : wb.calcState.ExactAt wb.sheets k) (hne : k ≠ key) :
    (wb.register key).calcState.ExactAt wb.sheets k := by
  have hne' : key ≠ k := fun e => hne e.symm
  unfold register
  cases wb.formulaText? key with
  | none =>
    refine ⟨?_, fun p => ?_, ?_⟩
    · simp only [CalcState.forget, Std.ExtTreeMap.getElem?_erase, Std.compare_eq_iff_eq, hne',
        if_false, h.formulas]
    · simp only [CalcState.forget, Graph.precedents_removePrecedents, hne', if_false,
        h.precedents]
    · simp only [CalcState.forget, Std.ExtTreeSet.mem_erase, ne_eq, Std.compare_eq_iff_eq, hne',
        not_false_eq_true, true_and, h.volatile]
  | some text =>
    refine ⟨?_, fun p => ?_, ?_⟩
    · simp only [CalcState.note, Std.ExtTreeMap.getElem?_insert, Std.compare_eq_iff_eq, hne',
        if_false, h.formulas]
    · simp only [CalcState.note, Graph.mem_precedents_setPrecedents, hne', if_false,
        h.precedents]
    · simp only [CalcState.note]
      split
      · simp only [Std.ExtTreeSet.mem_insert, Std.compare_eq_iff_eq, hne', false_or, h.volatile]
      · simp only [Std.ExtTreeSet.mem_erase, ne_eq, Std.compare_eq_iff_eq, hne',
          not_false_eq_true, true_and, h.volatile]

/-! ## 4. Reading every formula anew -/

/-- The keys of `formulaKeys` are those with a formula. -/
theorem mem_formulaKeys : key ∈ wb.formulaKeys ↔ formulaIn wb.sheets key ≠ none := by
  unfold formulaKeys formulaIn cellIn
  obtain ⟨i, row, col⟩ := key
  simp only [List.mem_flatMap, Prod.exists, List.mem_zipIdx_iff_getElem?, List.mem_map,
    CellKey.mk.injEq, Worksheet.formulaCells, List.mem_filterMap, Option.map_eq_some_iff,
    Prod.mk.injEq, Worksheet.cells, CellStore.mem_cells]
  constructor
  · intro h
    obtain ⟨ws, i', hws, r, c, text, ⟨r', c', cell, hc, t, ht, rfl, rfl, rfl⟩, rfl, rfl, rfl⟩ := h
    have hget : ws.get? r' c' = some cell := hc
    simp [hws, hget, ht]
  · intro h
    cases hws : wb.sheets[i]? with
    | none => simp [hws] at h
    | some ws =>
      cases hc : ws.get? row col with
      | none => simp [hws, hc] at h
      | some cell =>
        cases ht : cell.formula with
        | none => simp [hws, hc, ht] at h
        | some text =>
          exact ⟨ws, i, hws, row, col, text, ⟨row, col, cell, hc, text, ht, rfl, rfl, rfl⟩,
            rfl, rfl, rfl⟩

/-- The workbook with every formula read anew, not yet evaluated. -/
def readAll (wb : Workbook) : Workbook :=
  wb.formulaKeys.foldl register { wb with calcState := {} }

theorem foldl_register_tabs (keys : List CellKey) (wb : Workbook) :
    (keys.foldl register wb).tabs = wb.tabs := by
  induction keys generalizing wb with
  | nil => rfl
  | cons key keys ih => rw [List.foldl_cons, ih, register_tabs]

@[simp] theorem readAll_tabs (wb : Workbook) : wb.readAll.tabs = wb.tabs :=
  foldl_register_tabs _ _

@[simp] theorem readAll_sheets (wb : Workbook) : wb.readAll.sheets = wb.sheets := by
  simp only [sheets, readAll_tabs]

/-- Reading some keys makes all keys exact, if the others were so before. -/
theorem foldl_register_exactAt (keys : List CellKey) (wb : Workbook)
    (h : ∀ k, k ∉ keys → wb.calcState.ExactAt wb.sheets k) (k : CellKey) :
    (keys.foldl register wb).calcState.ExactAt wb.sheets k := by
  induction keys generalizing wb with
  | nil => exact h k List.not_mem_nil
  | cons key keys ih =>
    have hstep : ∀ k, k ∉ keys →
        (wb.register key).calcState.ExactAt (wb.register key).sheets k := by
      intro k hk
      rw [register_sheets]
      by_cases he : k = key
      · subst he
        exact register_exactAt wb k
      · exact register_exactAt_of_ne (h k fun hmem => (List.mem_cons.mp hmem).elim he hk) he
    have hall := ih (wb.register key) hstep
    rwa [register_sheets] at hall

/-- **Reading every formula anew makes every key exact.** -/
theorem readAll_exactAt (wb : Workbook) (k : CellKey) :
    wb.readAll.calcState.ExactAt wb.readAll.sheets k := by
  rw [readAll_sheets]
  refine foldl_register_exactAt wb.formulaKeys { wb with calcState := {} } (fun k hk => ?_) k
  have hnone : formulaIn wb.sheets k = none :=
    Classical.not_not.mp fun hne => hk (mem_formulaKeys.mpr hne)
  exact CalcState.exactAt_empty hnone

end Workbook

end Gridcalc
