import Gridcalc.Sheet.Store

/-!
# Storage through its view

What each operation of a store does to `CellStore.get?`, so that nothing else has to look at the
rows.

* `get?_erase`, `get?_set`, `get?_modify`, `get?_touch` (`get?_put` stands beside the definition);
* `CellStore.Tight`: no row is kept without cells; a tight store is known by its cells and its
  hidden rows (`CellStore.ext_get?`);
* `get?_moveRows`, `get?_moveColumns`: a cell found after a move was there before it;
* `get?_moveRows_of_place`, `get?_moveColumns_of_place`: what is found where a single line went to.
-/

namespace Gridcalc.CellStore

variable {s : CellStore} {row col r c : Nat}

/-! ## 1. One cell -/

theorem get?_eq_rowMap (s : CellStore) (row col : Nat) : s.get? row col = (s.rowMap row)[col]? := by
  unfold get? rowMap
  cases s.rows[row]? <;> simp

theorem get?_erase (s : CellStore) (row col r c : Nat) :
    (s.erase row col).get? r c = if row = r ∧ col = c then none else s.get? r c := by
  unfold erase
  cases hrow : s.rows[row]? with
  | none =>
    by_cases h : row = r ∧ col = c
    · obtain ⟨rfl, rfl⟩ := h
      simp [get?, hrow]
    · rw [if_neg h]
  | some cells =>
    have hcells : ∀ rows : Std.ExtTreeMap Nat RowCells,
        (∀ r, ((rows[r]?).bind fun cs => cs[c]?) =
          if row = r then (cells.erase col)[c]? else (s.rows[r]?).bind fun cs => cs[c]?) →
        ((rows[r]?).bind fun cs => cs[c]?) = if row = r ∧ col = c then none else s.get? r c := by
      intro rows h
      rw [h r]
      by_cases hr : row = r
      · subst hr
        simp only [if_true, Std.ExtTreeMap.getElem?_erase, Std.compare_eq_iff_eq, true_and, get?,
          hrow, Option.bind_some]
      · rw [if_neg hr, if_neg fun e => hr e.1]
        rfl
    by_cases he : (cells.erase col).isEmpty = true
    · simp only [he, if_true]
      refine hcells _ fun r => ?_
      rw [Std.ExtTreeMap.getElem?_erase]
      simp only [Std.compare_eq_iff_eq]
      split
      · rw [Std.ExtTreeMap.isEmpty_iff.mp he]
        simp
      · rfl
    · simp only [he, Bool.false_eq_true, if_false]
      refine hcells _ fun r => ?_
      rw [Std.ExtTreeMap.getElem?_insert]
      simp only [Std.compare_eq_iff_eq]
      split <;> rfl

theorem get?_set (s : CellStore) (row col r c : Nat) (cell : Cell) :
    (s.set row col cell).get? r c =
      if row = r ∧ col = c then (if cell.isBlank then none else some cell) else s.get? r c := by
  unfold set
  split
  · exact get?_erase s row col r c
  · exact get?_put s row col r c cell

theorem get?_modify (s : CellStore) (row col r c : Nat) (f : Cell → Cell) :
    (s.modify row col f).get? r c =
      if row = r ∧ col = c then (s.get? r c).map f else s.get? r c := by
  unfold modify
  cases h : s.get? row col with
  | none =>
    by_cases he : row = r ∧ col = c
    · obtain ⟨rfl, rfl⟩ := he
      simp [h]
    · rw [if_neg he]
  | some cell =>
    simp only [get?_put]
    by_cases he : row = r ∧ col = c
    · obtain ⟨rfl, rfl⟩ := he
      simp [h]
    · rw [if_neg he, if_neg he]

theorem get?_touch (s : CellStore) (row col r c : Nat) :
    (s.touch row col).get? r c =
      if row = r ∧ col = c then some ((s.get? r c).getD {}) else s.get? r c := by
  unfold touch
  cases h : s.get? row col with
  | none =>
    simp only [get?_put]
    by_cases he : row = r ∧ col = c
    · obtain ⟨rfl, rfl⟩ := he
      simp [h]
    · rw [if_neg he, if_neg he]
  | some cell =>
    by_cases he : row = r ∧ col = c
    · obtain ⟨rfl, rfl⟩ := he
      simp [h]
    · rw [if_neg he]

/-- Storing a cell where it is stored already changes nothing. -/
theorem put_get? {cell : Cell} (h : s.get? row col = some cell) : s.put row col cell = s := by
  obtain ⟨cells, hr, hc⟩ := Option.bind_eq_some_iff.mp h
  have hrow : s.rowMap row = cells := by simp [rowMap, hr]
  have hcells : cells.insert col cell = cells := by
    refine Std.ExtTreeMap.ext_getElem? fun c => ?_
    rw [Std.ExtTreeMap.getElem?_insert]
    split
    · rename_i e
      rw [← Std.compare_eq_iff_eq.mp e, hc]
    · rfl
  have hrows : s.rows.insert row cells = s.rows := by
    refine Std.ExtTreeMap.ext_getElem? fun r => ?_
    rw [Std.ExtTreeMap.getElem?_insert]
    split
    · rename_i e
      rw [← Std.compare_eq_iff_eq.mp e, hr]
    · rfl
  unfold put
  rw [hrow, hcells, hrows]

/-- Only the cells of a store are changed one at a time, never its hidden rows. -/
theorem hidden_erase (s : CellStore) (row col : Nat) : (s.erase row col).hidden = s.hidden := by
  unfold erase
  cases s.rows[row]? with
  | none => rfl
  | some cells =>
    dsimp only
    split <;> rfl

theorem hidden_set (s : CellStore) (row col : Nat) (cell : Cell) :
    (s.set row col cell).hidden = s.hidden := by
  unfold set
  split
  · exact hidden_erase s row col
  · rfl

theorem hidden_modify (s : CellStore) (row col : Nat) (f : Cell → Cell) :
    (s.modify row col f).hidden = s.hidden := by
  unfold modify
  split <;> rfl

theorem hidden_touch (s : CellStore) (row col : Nat) : (s.touch row col).hidden = s.hidden := by
  unfold touch
  split <;> rfl

/-! ## 2. The whole -/

/-- The stored cells are those that the view shows. -/
theorem mem_cells {s : CellStore} {row col : Nat} {cell : Cell} :
    (row, col, cell) ∈ s.cells ↔ s.get? row col = some cell := by
  unfold cells get?
  simp only [List.mem_flatMap, List.mem_map, Prod.exists, Prod.mk.injEq,
    Std.ExtTreeMap.mem_toList_iff_getElem?_eq_some]
  constructor
  · intro h
    obtain ⟨r, cells, hr, c, cl, hc, rfl, rfl, rfl⟩ := h
    rw [hr, Option.bind_some, hc]
  · intro h
    obtain ⟨cells, hr, hc⟩ := Option.bind_eq_some_iff.mp h
    exact ⟨row, cells, hr, col, cell, hc, rfl, rfl, rfl⟩

/-- No row is kept without cells. -/
def Tight (s : CellStore) : Prop := ∀ row : Nat, s.rows[row]? ≠ some ∅

theorem tight_empty : Tight {} := by
  intro row
  simp

theorem Tight.put (h : s.Tight) (cell : Cell) : (s.put row col cell).Tight := by
  intro r
  unfold CellStore.put
  rw [Std.ExtTreeMap.getElem?_insert]
  split
  · intro e
    have hc := congrArg (fun m : RowCells => m[col]?) (Option.some.inj e)
    simp at hc
  · exact h r

theorem Tight.erase (h : s.Tight) : (s.erase row col).Tight := by
  unfold CellStore.erase
  cases s.rows[row]? with
  | none => exact h
  | some cells =>
    by_cases he : (cells.erase col).isEmpty = true
    · simp only [he, if_true]
      intro r
      rw [Std.ExtTreeMap.getElem?_erase]
      split
      · simp
      · exact h r
    · simp only [he, Bool.false_eq_true, if_false]
      intro r
      rw [Std.ExtTreeMap.getElem?_insert]
      split
      · intro e
        exact he (Std.ExtTreeMap.isEmpty_iff.mpr (Option.some.inj e))
      · exact h r

theorem Tight.set (h : s.Tight) (cell : Cell) : (s.set row col cell).Tight := by
  unfold CellStore.set
  split
  · exact h.erase
  · exact h.put cell

theorem Tight.modify (h : s.Tight) (f : Cell → Cell) : (s.modify row col f).Tight := by
  unfold CellStore.modify
  split
  · exact h.put _
  · exact h

theorem Tight.touch (h : s.Tight) : (s.touch row col).Tight := by
  unfold CellStore.touch
  split
  · exact h
  · exact h.put _

/-- A row that is kept has a cell. -/
theorem Tight.exists_cell (h : s.Tight) {cells : RowCells} (hr : s.rows[row]? = some cells) :
    ∃ c cell, s.get? row c = some cell := by
  have hne : ¬cells = ∅ := fun e => h row (by rw [hr, e])
  have hlist : cells.toList ≠ [] := by
    rwa [ne_eq, Std.ExtTreeMap.toList_eq_nil_iff]
  obtain ⟨⟨c, cell⟩, hmem⟩ := List.exists_mem_of_ne_nil _ hlist
  refine ⟨c, cell, ?_⟩
  unfold get?
  rw [hr, Option.bind_some]
  exact Std.ExtTreeMap.mem_toList_iff_getElem?_eq_some.mp hmem

/-- **A tight store is known by its cells and its hidden rows.** -/
theorem ext_get? {s' : CellStore} (h : s.Tight) (h' : s'.Tight)
    (hcells : ∀ r c, s.get? r c = s'.get? r c) (hhidden : s.hidden = s'.hidden) : s = s' := by
  have hrows : s.rows = s'.rows := by
    refine Std.ExtTreeMap.ext_getElem? fun r => ?_
    have hrow : ∀ c : Nat, (s.rowMap r)[c]? = (s'.rowMap r)[c]? := by
      intro c
      rw [← get?_eq_rowMap, ← get?_eq_rowMap, hcells]
    cases hr : s.rows[r]? with
    | none =>
      cases hr' : s'.rows[r]? with
      | none => rfl
      | some cells' =>
        obtain ⟨c, cell, hc⟩ := h'.exists_cell hr'
        rw [← hcells, get?, hr] at hc
        cases hc
    | some cells =>
      cases hr' : s'.rows[r]? with
      | none =>
        obtain ⟨c, cell, hc⟩ := h.exists_cell hr
        rw [hcells, get?, hr'] at hc
        cases hc
      | some cells' =>
        simp only [rowMap, hr, hr', Option.getD_some] at hrow
        rw [Std.ExtTreeMap.ext_getElem? hrow]
  cases s
  cases s'
  simp_all

/-! ## 3. Moves -/

/-- An entry of a map with moved keys was there under another key. -/
theorem getElem?_moveKeys {β : Type} {place : Nat → Option Nat} {m : Std.ExtTreeMap Nat β}
    {k : Nat} {v : β} (h : (moveKeys place m)[k]? = some v) :
    ∃ k₀, place k₀ = some k ∧ m[k₀]? = some v := by
  unfold moveKeys at h
  rw [Std.ExtTreeMap.foldl_eq_foldl_toList] at h
  revert h
  refine List.foldlRecOn (motive := fun acc : Std.ExtTreeMap Nat β =>
    acc[k]? = some v → ∃ k₀, place k₀ = some k ∧ m[k₀]? = some v) m.toList _ ?_ ?_
  · intro h
    simp at h
  · intro acc hacc p hp h
    have hm : m[p.1]? = some p.2 := Std.ExtTreeMap.mem_toList_iff_getElem?_eq_some.mp hp
    cases hplace : place p.1 with
    | none =>
      rw [hplace] at h
      exact hacc h
    | some k' =>
      rw [hplace] at h
      simp only [Std.ExtTreeMap.getElem?_insert, Std.compare_eq_iff_eq] at h
      by_cases hk : k' = k
      · rw [if_pos hk, Option.some.injEq] at h
        exact ⟨p.1, hk ▸ hplace, h ▸ hm⟩
      · rw [if_neg hk] at h
        exact hacc h

/-- Once a key is taken by an entry that has gone there, no later entry frees it again. -/
theorem mem_moveKeys {β : Type} {place : Nat → Option Nat} {m : Std.ExtTreeMap Nat β}
    {k k₀ : Nat} (h : place k₀ = some k) (hmem : k₀ ∈ m) : k ∈ moveKeys place m := by
  rw [Std.ExtTreeMap.mem_iff_isSome_getElem?, Option.isSome_iff_exists] at hmem
  obtain ⟨v, hv⟩ := hmem
  have hentry : (k₀, v) ∈ m.toList := Std.ExtTreeMap.mem_toList_iff_getElem?_eq_some.mpr hv
  have hk : k ∈ (∅ : Std.ExtTreeMap Nat β) ∨ k₀ ∈ m.toList.map Prod.fst :=
    .inr (List.mem_map.mpr ⟨(k₀, v), hentry, rfl⟩)
  rw [moveKeys, Std.ExtTreeMap.foldl_eq_foldl_toList]
  clear hentry
  -- what has been taken so far stays taken
  generalize m.toList = l at hk ⊢
  generalize (∅ : Std.ExtTreeMap Nat β) = acc at hk ⊢
  induction l generalizing acc with
  | nil => exact hk.resolve_right List.not_mem_nil
  | cons p l ih =>
    refine ih _ ?_
    dsimp only
    rw [List.map_cons, List.mem_cons] at hk
    rcases hk with hk | rfl | hk
    · refine .inl ?_
      split
      · exact Std.ExtTreeMap.mem_insert.mpr (.inr hk)
      · exact hk
    · rw [h]
      exact .inl Std.ExtTreeMap.mem_insert_self
    · exact .inr hk

/-- An entry is found under its new key, if no other one has gone to the same place. -/
theorem getElem?_moveKeys_of_place {β : Type} {place : Nat → Option Nat}
    {m : Std.ExtTreeMap Nat β} {k k₀ : Nat} (h : place k₀ = some k)
    (hinj : ∀ k₁, k₁ ∈ m → place k₁ = some k → k₁ = k₀) : (moveKeys place m)[k]? = m[k₀]? := by
  cases hfound : (moveKeys place m)[k]? with
  | some v =>
    obtain ⟨k₁, hk₁, hv⟩ := getElem?_moveKeys hfound
    have hmem : k₁ ∈ m := Std.ExtTreeMap.mem_iff_isSome_getElem?.mpr (by rw [hv]; rfl)
    rw [← hinj k₁ hmem hk₁, hv]
  | none =>
    have hnone : k₀ ∉ m := by
      intro hmem
      have hk := mem_moveKeys h hmem
      rw [Std.ExtTreeMap.mem_iff_isSome_getElem?, hfound] at hk
      cases hk
    rw [Std.ExtTreeMap.getElem?_eq_none hnone]

/-- A set with moved members has what its members have become. -/
theorem mem_moveMembers {place : Nat → Option Nat} {m : Std.ExtTreeSet Nat} {k : Nat} :
    k ∈ moveMembers place m ↔ ∃ k₀, place k₀ = some k ∧ k₀ ∈ m := by
  have hstart : (∃ k₀, place k₀ = some k ∧ k₀ ∈ m) ↔
      k ∈ (∅ : Std.ExtTreeSet Nat) ∨ ∃ k₀ ∈ m.toList, place k₀ = some k := by
    simp [and_comm]
  rw [hstart, moveMembers, Std.ExtTreeSet.foldl_eq_foldl_toList]
  clear hstart
  generalize m.toList = l
  generalize (∅ : Std.ExtTreeSet Nat) = acc
  induction l generalizing acc with
  | nil => simp
  | cons p l ih =>
    refine (ih _).trans ?_
    cases hplace : place p with
    | none => simp [hplace]
    | some k' =>
      simp only [Std.ExtTreeSet.mem_insert, Std.compare_eq_iff_eq, List.mem_cons,
        exists_eq_or_imp, hplace, Option.some.injEq, or_assoc, or_left_comm]

/-- A cell found after rows moved was in another row before. -/
theorem get?_moveRows {place : Nat → Option Nat} {cell : Cell}
    (h : (s.moveRows place).get? r c = some cell) :
    ∃ r₀, place r₀ = some r ∧ s.get? r₀ c = some cell := by
  obtain ⟨cells, hr, hc⟩ := Option.bind_eq_some_iff.mp h
  obtain ⟨r₀, hp, hr₀⟩ := getElem?_moveKeys hr
  refine ⟨r₀, hp, ?_⟩
  unfold get?
  rw [hr₀]
  exact hc

/-- A cell found after columns moved was in another column before. -/
theorem get?_moveColumns {place : Nat → Option Nat} {cell : Cell}
    (h : (s.moveColumns place).get? r c = some cell) :
    ∃ c₀, place c₀ = some c ∧ s.get? r c₀ = some cell := by
  obtain ⟨cells, hr, hc⟩ := Option.bind_eq_some_iff.mp h
  simp only [moveColumns, Std.ExtTreeMap.getElem?_filter', Std.ExtTreeMap.getElem?_map] at hr
  obtain ⟨hr, -⟩ := Option.filter_eq_some_iff.mp hr
  obtain ⟨cells₀, hr₀, rfl⟩ := Option.map_eq_some_iff.mp hr
  obtain ⟨c₀, hp, hc₀⟩ := getElem?_moveKeys hc
  refine ⟨c₀, hp, ?_⟩
  unfold get?
  rw [hr₀]
  exact hc₀

/-- The cells of a row are found where it went to, if no other row has gone there. -/
theorem get?_moveRows_of_place {place : Nat → Option Nat} {r₀ : Nat} (ht : s.Tight)
    (hp : place r₀ = some r)
    (hinj : ∀ r₁ c₁ cell, s.get? r₁ c₁ = some cell → place r₁ = some r → r₁ = r₀) :
    (s.moveRows place).get? r c = s.get? r₀ c := by
  have hrow : (moveKeys place s.rows)[r]? = s.rows[r₀]? := by
    refine getElem?_moveKeys_of_place hp fun r₁ hr₁ hp₁ => ?_
    rw [Std.ExtTreeMap.mem_iff_isSome_getElem?, Option.isSome_iff_exists] at hr₁
    obtain ⟨cells, hcells⟩ := hr₁
    obtain ⟨c₁, cell, hcell⟩ := ht.exists_cell hcells
    exact hinj r₁ c₁ cell hcell hp₁
  unfold get? moveRows
  rw [hrow]

/-- The cells of a column are found where it went to, if no other column has gone there. -/
theorem get?_moveColumns_of_place {place : Nat → Option Nat} {c₀ : Nat} (hp : place c₀ = some c)
    (hinj : ∀ c₁ cell, s.get? r c₁ = some cell → place c₁ = some c → c₁ = c₀) :
    (s.moveColumns place).get? r c = s.get? r c₀ := by
  have hmoved : ∀ cells, s.rows[r]? = some cells → (moveKeys place cells)[c]? = cells[c₀]? := by
    intro cells hcells
    refine getElem?_moveKeys_of_place hp fun c₁ hc₁ hp₁ => ?_
    rw [Std.ExtTreeMap.mem_iff_isSome_getElem?, Option.isSome_iff_exists] at hc₁
    obtain ⟨cell, hcell⟩ := hc₁
    refine hinj c₁ cell ?_ hp₁
    rw [get?, hcells, Option.bind_some, hcell]
  simp only [get?, moveColumns, Std.ExtTreeMap.getElem?_filter', Std.ExtTreeMap.getElem?_map]
  cases hr : s.rows[r]? with
  | none => rfl
  | some cells =>
    rw [Option.bind_some, ← hmoved cells hr, Option.map_some, Option.filter_some]
    split
    · rfl
    · -- a row that has lost its cells is dropped
      rename_i hempty
      rw [Bool.not_eq_true', Bool.not_eq_false, Std.ExtTreeMap.isEmpty_iff] at hempty
      rw [hempty, Option.bind_none]
      simp

theorem Tight.moveRows (h : s.Tight) (place : Nat → Option Nat) : (s.moveRows place).Tight := by
  intro r e
  obtain ⟨r₀, -, hr₀⟩ := getElem?_moveKeys e
  exact h r₀ hr₀

theorem Tight.moveColumns (place : Nat → Option Nat) : (s.moveColumns place).Tight := by
  intro r e
  simp only [CellStore.moveColumns, Std.ExtTreeMap.getElem?_filter'] at e
  obtain ⟨-, he⟩ := Option.filter_eq_some_iff.mp e
  simp at he

end Gridcalc.CellStore
