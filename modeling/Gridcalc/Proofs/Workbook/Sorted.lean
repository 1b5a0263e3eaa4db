import Mathlib.Data.Fintype.EquivFin
import Mathlib.Data.List.FinRange
import Gridcalc.Proofs.Workbook.CutPaste

/-!
# Sorted ranges

A sort takes the records of a range, which are its rows or the cells of its only row, and puts them
back in the order of their keys.

* `stableSort_perm`, `exists_stableSort_finRange`: sorting rearranges, and puts numbered things into
  the order of their keys and equal ones into the order of their numbers;
* `transCmp_compareKeys`: the order of keys is a total preorder if that of values is one on the keys
  that are not blank; `StableOrder` is what a sort makes of the keys then;
* `sortSlots_eq`, `exists_sortedCells`: the places of the records, and what is put there;
* `Edit.sort_records`: **a sort is a stable rearrangement of whole records, and touches nothing
  else.**
-/

namespace Gridcalc

open Std

/-! ## 1. Stable sorting -/

section Stable

variable {α β : Type} {before : α → α → Bool} {x : α} {xs ys : List α}

theorem mem_insertBehind {y : α} : y ∈ insertBehind before x ys ↔ y = x ∨ y ∈ ys :=
  (insertBehind_perm before x ys).mem_iff.trans List.mem_cons

theorem foldl_insertBehind_perm (xs placed : List α) :
    (xs.foldl (fun placed x => insertBehind before x placed) placed).Perm (xs ++ placed) := by
  induction xs generalizing placed with
  | nil => exact .refl _
  | cons x xs ih =>
    refine (ih _).trans ?_
    exact ((insertBehind_perm before x placed).append_left xs).trans List.perm_middle

/-- Nothing is lost or added by sorting. -/
theorem stableSort_perm (xs : List α) : (stableSort before xs).Perm xs := by
  have h := @foldl_insertBehind_perm α before xs []
  rw [List.append_nil] at h
  exact (List.reverse_perm _).trans h

theorem insertBehind_map (f : β → α) (x : β) (ys : List β) :
    insertBehind before (f x) (ys.map f) =
      (insertBehind (fun a b => before (f a) (f b)) x ys).map f := by
  induction ys with
  | nil => rfl
  | cons y ys ih =>
    rw [List.map_cons, insertBehind, insertBehind, ih]
    split <;> rfl

/-- Elements are sorted by what is looked at. -/
theorem stableSort_map (f : β → α) (xs : List β) :
    stableSort before (xs.map f) = (stableSort (fun a b => before (f a) (f b)) xs).map f := by
  have hfold : ∀ (xs placed : List β),
      (xs.map f).foldl (fun placed x => insertBehind before x placed) (placed.map f) =
        (xs.foldl (fun placed x => insertBehind (fun a b => before (f a) (f b)) x placed)
          placed).map f := by
    intro xs
    induction xs with
    | nil => exact fun _ => rfl
    | cons x xs ih =>
      intro placed
      rw [List.map_cons, List.foldl_cons, insertBehind_map]
      exact ih _
  rw [stableSort, stableSort, List.map_reverse]
  exact congrArg List.reverse (hfold xs [])

end Stable

section Numbered

variable {n : Nat} {cmp : Fin n → Fin n → Ordering} [TransCmp cmp]

/-- The order of numbered things, where equal ones go by their numbers. -/
abbrev byNumber (cmp : Fin n → Fin n → Ordering) : Fin n → Fin n → Ordering :=
  compareLex cmp compare

/-- A thing comes before a later one that does not come before it. -/
theorem byNumber_of_not_lt {a b : Fin n} (hab : a < b) (h : cmp b a ≠ .lt) :
    byNumber cmp a b = .lt := by
  rw [byNumber, compareLex, @OrientedCmp.eq_swap _ cmp _ a b]
  cases hba : cmp b a with
  | lt => exact absurd hba h
  | eq => exact compare_lt_iff_lt.mpr hab
  | gt => rfl

/-- The next thing is put behind all that it does not come before: those have smaller numbers. -/
theorem pairwise_insertBehind {x : Fin n} {ys : List (Fin n)} (hx : ∀ y ∈ ys, y < x)
    (h : ys.Pairwise fun a b => byNumber cmp b a = .lt) :
    (insertBehind (fun a b => cmp a b = .lt) x ys).Pairwise
      fun a b => byNumber cmp b a = .lt := by
  induction ys with
  | nil => exact List.pairwise_singleton _ x
  | cons y ys ih =>
    obtain ⟨hy, hys⟩ := List.pairwise_cons.mp h
    obtain ⟨hyx, hx⟩ := List.forall_mem_cons.mp hx
    unfold insertBehind
    split
    · rename_i hlt
      refine List.pairwise_cons.mpr ⟨fun z hz => ?_, ih hx hys⟩
      rcases mem_insertBehind.mp hz with rfl | hz
      · simp [byNumber, compareLex, of_decide_eq_true hlt]
      · exact hy z hz
    · rename_i hnot
      have hfirst : byNumber cmp y x = .lt := byNumber_of_not_lt hyx (by simpa using hnot)
      refine List.pairwise_cons.mpr ⟨List.forall_mem_cons.mpr ⟨hfirst, fun z hz => ?_⟩, h⟩
      exact TransCmp.lt_trans (hy z hz) hfirst

theorem pairwise_foldl_insertBehind {xs placed : List (Fin n)} (hxs : xs.Pairwise (· < ·))
    (hlater : ∀ x ∈ xs, ∀ y ∈ placed, y < x)
    (h : placed.Pairwise fun a b => byNumber cmp b a = .lt) :
    (xs.foldl (fun placed x => insertBehind (fun a b => cmp a b = .lt) x placed) placed).Pairwise
      fun a b => byNumber cmp b a = .lt := by
  induction xs generalizing placed with
  | nil => exact h
  | cons x xs ih =>
    obtain ⟨hx, hxs⟩ := List.pairwise_cons.mp hxs
    obtain ⟨hplaced, hlater⟩ := List.forall_mem_cons.mp hlater
    refine ih hxs (fun x' hx' y hy => ?_) (pairwise_insertBehind hplaced h)
    rcases mem_insertBehind.mp hy with rfl | hy
    · exact hx x' hx'
    · exact hlater x' hx' y hy

/-- **Sorting numbered things** rearranges their numbers, into the order of the things and, among
    equal ones, into the order of the numbers. -/
theorem exists_stableSort_finRange (cmp : Fin n → Fin n → Ordering) [TransCmp cmp] :
    ∃ σ : Equiv.Perm (Fin n),
      stableSort (fun a b => cmp a b = .lt) (List.finRange n) = (List.finRange n).map σ ∧
        ∀ i j, i < j → byNumber cmp (σ i) (σ j) = .lt := by
  let sorted := stableSort (fun a b => decide (cmp a b = .lt)) (List.finRange n)
  have hperm : sorted.Perm (List.finRange n) := stableSort_perm _
  have hlen : sorted.length = n := hperm.length_eq.trans (List.length_finRange)
  have hnodup : sorted.Nodup := hperm.nodup_iff.mpr (List.nodup_finRange n)
  have hsorted : sorted.Pairwise fun a b => byNumber cmp a b = .lt :=
    List.pairwise_reverse.mpr (pairwise_foldl_insertBehind (List.pairwise_lt_finRange n)
      (fun _ _ y hy => absurd hy List.not_mem_nil) .nil)
  let f : Fin n → Fin n := fun i => sorted.get (i.cast hlen.symm)
  have hinj : Function.Injective f :=
    (List.nodup_iff_injective_get.mp hnodup).comp (Fin.cast_injective hlen.symm)
  have hlist : sorted = List.ofFn f :=
    List.ext_getElem (by rw [hlen, List.length_ofFn]) fun i hi _ => by rw [List.getElem_ofFn]; rfl
  refine ⟨Equiv.ofBijective f (Finite.injective_iff_bijective.mp hinj), ?_, ?_⟩
  · exact hlist.trans List.ofFn_eq_map
  · rw [hlist] at hsorted
    exact List.pairwise_ofFn.mp hsorted

end Numbered

/-! ## 2. Keys -/

/-- The order of values is a total preorder on some of them: seen from the other side it is turned
    round, and what is not behind is passed on. -/
structure Value.PreordersOn (values : Set Value) : Prop where
  swap : ∀ a ∈ values, ∀ b ∈ values, a.compare b = (b.compare a).swap
  trans : ∀ a ∈ values, ∀ b ∈ values, ∀ c ∈ values,
    (a.compare b).isLE = true → (b.compare c).isLE = true → (a.compare c).isLE = true

/-- Two keys that count as equal: two blank ones, or two others that are equal in the order of
    values. -/
def SameKey (a b : Value) : Prop :=
  a.isBlank = b.isBlank ∧ (a.isBlank = false → a.compare b = .eq)

/-- What a sort makes of numbered keys, where `σ i` is the number of the key that comes to the
    place `i`. -/
structure StableOrder {n : Nat} (order : SortOrder) (key : Fin n → Value)
    (σ : Equiv.Perm (Fin n)) : Prop where
  /-- Blank keys come last. -/
  blanks_last : ∀ i j, i < j → (key (σ i)).isBlank = true → (key (σ j)).isBlank = true
  /-- The others do not go down. -/
  ascending : order = .ascending → ∀ i j, i < j → (key (σ i)).isBlank = false →
    (key (σ j)).isBlank = false → (key (σ i)).compare (key (σ j)) ≠ .gt
  /-- Or they do not go up. -/
  descending : order = .descending → ∀ i j, i < j → (key (σ i)).isBlank = false →
    (key (σ j)).isBlank = false → (key (σ i)).compare (key (σ j)) ≠ .lt
  /-- Equal keys are in the order in which they were. -/
  stable : ∀ i j, i < j → SameKey (key (σ i)) (key (σ j)) → σ i < σ j

theorem Value.PreordersOn.mono {values values' : Set Value} (h : Value.PreordersOn values')
    (hsub : values ⊆ values') : Value.PreordersOn values :=
  ⟨fun a ha b hb => h.swap a (hsub ha) b (hsub hb),
    fun a ha b hb c hc => h.trans a (hsub ha) b (hsub hb) c (hsub hc)⟩

/-- On such values the order is one of the library's total preorders. -/
theorem Value.PreordersOn.transCmp {values : Set Value} (h : Value.PreordersOn values) :
    TransCmp fun a b : values => a.1.compare b.1 where
  eq_swap {a b} := h.swap a a.2 b b.2
  isLE_trans {a b c} := h.trans a a.2 b b.2 c c.2

theorem Value.preordersOn_booleans : Value.PreordersOn {v | ∃ b, Value.boolean b = v} := by
  refine ⟨?_, ?_⟩
  · rintro _ ⟨a, rfl⟩ _ ⟨b, rfl⟩
    show Ord.compare a b = (Ord.compare b a).swap
    exact OrientedCmp.eq_swap
  · rintro _ ⟨a, rfl⟩ _ ⟨b, rfl⟩ _ ⟨c, rfl⟩
    show (Ord.compare a b).isLE → (Ord.compare b c).isLE → (Ord.compare a c).isLE
    exact TransCmp.isLE_trans

section Keys

variable {n : Nat} {order : SortOrder} {a b : Value} {key : Fin n → Value}

theorem compareKeys_blank (ha : a.isBlank = true) (order : SortOrder) (b : Value) :
    compareKeys order a b = if b.isBlank then .eq else .gt := by
  unfold compareKeys
  rw [ha]
  cases b.isBlank <;> rfl

theorem compareKeys_before_blank (ha : a.isBlank = false) (hb : b.isBlank = true)
    (order : SortOrder) : compareKeys order a b = .lt := by
  unfold compareKeys
  rw [ha, hb]

theorem compareKeys_of_not_blank (ha : a.isBlank = false) (hb : b.isBlank = false)
    (order : SortOrder) : compareKeys order a b =
      match order with
      | .ascending => a.compare b
      | .descending => (a.compare b).swap := by
  unfold compareKeys
  cases order <;> rw [ha, hb]

theorem compareKeys_of_sameKey (h : SameKey a b) (order : SortOrder) :
    compareKeys order a b = .eq := by
  obtain ⟨hblank, heq⟩ := h
  cases ha : a.isBlank with
  | true => rw [compareKeys_blank ha, ← hblank, ha]; rfl
  | false =>
    rw [compareKeys_of_not_blank ha (hblank ▸ ha), heq ha]
    cases order <;> rfl

/-- **The order of keys is a total preorder** where the order of values is one on the keys that are
    not blank. -/
theorem transCmp_compareKeys {ι : Type} {key : ι → Value}
    (h : Value.PreordersOn {v | v.isBlank = false ∧ ∃ i, key i = v}) (order : SortOrder) :
    TransCmp fun i j => compareKeys order (key i) (key j) := by
  have hswap : ∀ i j, (key i).isBlank = false → (key j).isBlank = false →
      (key i).compare (key j) = ((key j).compare (key i)).swap := fun i j hi hj =>
    h.swap _ ⟨hi, i, rfl⟩ _ ⟨hj, j, rfl⟩
  have htrans : ∀ i j k, (key i).isBlank = false → (key j).isBlank = false →
      (key k).isBlank = false → ((key i).compare (key j)).isLE = true →
      ((key j).compare (key k)).isLE = true → ((key i).compare (key k)).isLE = true :=
    fun i j k hi hj hk => h.trans _ ⟨hi, i, rfl⟩ _ ⟨hj, j, rfl⟩ _ ⟨hk, k, rfl⟩
  refine { eq_swap := fun {i j} => ?_, isLE_trans := fun {i j k} hij hjk => ?_ }
  · cases hi : (key i).isBlank <;> cases hj : (key j).isBlank
    · rw [compareKeys_of_not_blank hi hj, compareKeys_of_not_blank hj hi, hswap i j hi hj]
      cases order <;> rfl
    · rw [compareKeys_before_blank hi hj, compareKeys_blank hj, hi]
      rfl
    · rw [compareKeys_before_blank hj hi, compareKeys_blank hi, hj]
      rfl
    · rw [compareKeys_blank hi, compareKeys_blank hj, hi, hj]
      rfl
  · cases hk : (key k).isBlank with
    | true =>
      cases hi : (key i).isBlank with
      | true => rw [compareKeys_blank hi, hk]; rfl
      | false => rw [compareKeys_before_blank hi hk]; rfl
    | false =>
      cases hj : (key j).isBlank with
      | true => rw [compareKeys_blank hj, hk] at hjk; cases hjk
      | false =>
        cases hi : (key i).isBlank with
        | true => rw [compareKeys_blank hi, hj] at hij; cases hij
        | false =>
          rw [compareKeys_of_not_blank hi hj] at hij
          rw [compareKeys_of_not_blank hj hk] at hjk
          rw [compareKeys_of_not_blank hi hk]
          cases order with
          | ascending => exact htrans i j k hi hj hk hij hjk
          | descending =>
            dsimp only at hij hjk ⊢
            rw [← hswap j i hj hi] at hij
            rw [← hswap k j hk hj] at hjk
            rw [← hswap k i hk hi]
            exact htrans k j i hk hj hi hjk hij

/-- Keys in the order of keys, equal ones in the order of their numbers. -/
theorem StableOrder.of_byNumber {σ : Equiv.Perm (Fin n)}
    (h : ∀ i j, i < j → byNumber (fun i j => compareKeys order (key i) (key j)) (σ i) (σ j) = .lt) :
    StableOrder order key σ := by
  have hle : ∀ i j, i < j → compareKeys order (key (σ i)) (key (σ j)) = .lt ∨
      compareKeys order (key (σ i)) (key (σ j)) = .eq ∧ σ i < σ j := fun i j hij =>
    (Ordering.then_eq_lt.mp (h i j hij)).imp_right fun ⟨he, hlt⟩ => ⟨he, compare_lt_iff_lt.mp hlt⟩
  refine ⟨fun i j hij hi => ?_, ?_, ?_, fun i j hij hsame => ?_⟩
  · have hcmp := hle i j hij
    rw [compareKeys_blank hi] at hcmp
    by_contra hj
    simp [hj] at hcmp
  · rintro rfl i j hij hi hj hgt
    have hcmp := hle i j hij
    rw [compareKeys_of_not_blank hi hj, hgt] at hcmp
    simp at hcmp
  · rintro rfl i j hij hi hj hlt
    have hcmp := hle i j hij
    rw [compareKeys_of_not_blank hi hj, hlt] at hcmp
    simp at hcmp
  · refine (hle i j hij).elim (fun hlt => ?_) And.right
    rw [compareKeys_of_sameKey hsame] at hlt
    cases hlt

/-- The only blank key comes to the last place. -/
theorem StableOrder.last_eq {key : Fin (n + 1) → Value} {σ : Equiv.Perm (Fin (n + 1))}
    (h : StableOrder order key σ) {b : Fin (n + 1)} (hblank : (key b).isBlank = true)
    (honly : ∀ i, i ≠ b → (key i).isBlank = false) : σ (Fin.last n) = b := by
  by_contra hne
  obtain ⟨i, hi⟩ := σ.surjective b
  have hlt : i < Fin.last n := Fin.lt_last_iff_ne_last.mpr fun e => hne (e ▸ hi)
  have hlast := h.blanks_last i (Fin.last n) hlt (by rw [hi]; exact hblank)
  rw [honly _ hne] at hlast
  cases hlast

/-- Of two equal keys with a blank one between them, the blank one goes to the end and the others
    keep their order. -/
theorem StableOrder.blank_between {key : Fin 3 → Value} {σ : Equiv.Perm (Fin 3)}
    (h : StableOrder order key σ) (hfirst : key 0 = a) (hblank : (key 1).isBlank = true)
    (hthird : key 2 = a) (ha : a.isBlank = false) (heq : a.compare a = .eq) :
    σ 0 = 0 ∧ σ 1 = 2 ∧ σ 2 = 1 := by
  have hkey : ∀ i, i ≠ 1 → key i = a := by
    intro i hi
    match i with
    | 0 => exact hfirst
    | 1 => exact absurd rfl hi
    | 2 => exact hthird
  have hlast : σ 2 = 1 := h.last_eq hblank fun i hi => by rw [hkey i hi, ha]
  have hothers : ∀ i, i ≠ 2 → σ i ≠ 1 := fun i hi e => hi (σ.injective (e.trans hlast.symm))
  have hstable : σ 0 < σ 1 := by
    refine h.stable 0 1 (by decide) ?_
    rw [hkey _ (hothers 0 (by decide)), hkey _ (hothers 1 (by decide))]
    exact ⟨rfl, fun _ => heq⟩
  have h0 := hothers 0 (by decide)
  have h1 := hothers 1 (by decide)
  omega

end Keys

/-! ## 3. Records -/

namespace RangeRef

/-- How many records a sort of a range puts in order: the rows, without a header if it has one, or
    the cells of the only row. -/
def recordCount (range : RangeRef) (skipHeader : Bool) : Nat :=
  if range.rowCount = 1 then range.colCount else range.rowCount - skipHeader.toNat

/-- How many cells a record has. -/
def recordWidth (range : RangeRef) : Nat := if range.rowCount = 1 then 1 else range.colCount

/-- The place of a cell of a record. -/
def recordPlace (range : RangeRef) (skipHeader : Bool) (record cell : Nat) : Nat × Nat :=
  if range.rowCount = 1 then (range.firstRow, range.firstCol + record)
  else (range.firstRow + skipHeader.toNat + record, range.firstCol + cell)

end RangeRef

/-- The key of a record: its value in a column of the sheet, or that of its only cell. -/
def Worksheet.recordKey (ws : Worksheet) (range : RangeRef) (skipHeader : Bool)
    (keyCol record : Nat) : Value :=
  if range.rowCount = 1 then ws.valueAt range.firstRow (range.firstCol + record)
  else ws.valueAt (range.firstRow + skipHeader.toNat + record) keyCol

section Records

variable {range : RangeRef} {skipHeader : Bool} {ws : Worksheet} {keyCol : Nat}

/-- **The slots of a sort** are the places of the records. -/
theorem sortSlots_eq (range : RangeRef) (skipHeader : Bool) :
    sortSlots range skipHeader =
      (List.finRange (range.recordCount skipHeader)).map fun i : Fin _ =>
        (List.range range.recordWidth).map (range.recordPlace skipHeader i) := by
  have hnumbers := List.map_map (f := Fin.val) (l := List.finRange (range.recordCount skipHeader))
    (g := fun i => (List.range range.recordWidth).map (range.recordPlace skipHeader i))
  refine Eq.trans ?_ hnumbers
  rw [List.map_coe_finRange_eq_range]
  unfold sortSlots RangeRef.recordCount RangeRef.recordWidth RangeRef.recordPlace
  split
  · rw [RangeRef.cols, List.range'_eq_map_range, List.map_map]
    rfl
  · rw [RangeRef.rows, RangeRef.cols, List.drop_range', List.range'_eq_map_range,
      List.range'_eq_map_range, List.map_map]
    simp only [List.map_map, Nat.mul_one]
    rfl

/-- If an element is the only one of its kind in a list, then it is the first of this kind. -/
theorem find?_eq_some_of_unique {α : Type} {p : α → Bool} {xs : List α} {x : α} (hx : x ∈ xs)
    (hp : p x = true) (h : ∀ y ∈ xs, p y = true → y = x) : xs.find? p = some x := by
  cases hfind : xs.find? p with
  | none => exact absurd hp (List.find?_eq_none.mp hfind x hx)
  | some y => rw [h y (List.mem_of_find?_eq_some hfind) (List.find?_some hfind)]

/-- A record is read from its places, and its key from the place of the key. -/
theorem read_record (hkey : range.rowCount ≠ 1 → range.firstCol ≤ keyCol ∧ keyCol ≤ range.lastCol)
    (ws : Worksheet) (i : Nat) :
    SortRecord.read ws keyCol
        ((List.range range.recordWidth).map (range.recordPlace skipHeader i)) =
      { key := ws.recordKey range skipHeader keyCol i
        cells := (List.range range.recordWidth).map fun j =>
          ws.get? (range.recordPlace skipHeader i j).1 (range.recordPlace skipHeader i j).2 } := by
  unfold SortRecord.read
  rw [List.map_map]
  by_cases hone : range.rowCount = 1
  · simp [RangeRef.recordWidth, RangeRef.recordPlace, Worksheet.recordKey, hone]
  · obtain ⟨hfirst, hlast⟩ := hkey hone
    have hwidth : range.recordWidth = range.lastCol - range.firstCol + 1 := if_neg hone
    have hplace : ∀ j, range.recordPlace skipHeader i j =
        (range.firstRow + skipHeader.toNat + i, range.firstCol + j) := fun j => if_neg hone
    have hvalue : ws.recordKey range skipHeader keyCol i =
        ws.valueAt (range.firstRow + skipHeader.toNat + i) keyCol := if_neg hone
    dsimp only
    rw [hvalue, List.length_map, List.length_range, find?_eq_some_of_unique
      (x := (range.firstRow + skipHeader.toNat + i, keyCol))]
    · rfl
    · refine List.mem_map.mpr ⟨keyCol - range.firstCol, List.mem_range.mpr (by omega), ?_⟩
      rw [hplace, Nat.add_sub_cancel' hfirst]
    · simp
    · intro y hy hcol
      obtain ⟨j, hj, rfl⟩ := List.mem_map.mp hy
      rw [List.mem_range] at hj
      rw [hplace] at hcol ⊢
      simp only [Bool.or_eq_true, beq_iff_eq] at hcol
      rw [Prod.mk.injEq]
      omega

/-- **What a sort puts where**: the cells of the record that comes to a place. -/
theorem exists_sortedCells (order : SortOrder)
    (hkey : range.rowCount ≠ 1 → range.firstCol ≤ keyCol ∧ keyCol ≤ range.lastCol)
    (hpre : Value.PreordersOn {v | v.isBlank = false ∧
      ∃ i : Fin (range.recordCount skipHeader), ws.recordKey range skipHeader keyCol i = v}) :
    ∃ σ : Equiv.Perm (Fin (range.recordCount skipHeader)),
      StableOrder order (fun i => ws.recordKey range skipHeader keyCol i) σ ∧
      sortedCells ws order keyCol (sortSlots range skipHeader) =
        (List.finRange (range.recordCount skipHeader)).flatMap fun i : Fin _ =>
          (List.range range.recordWidth).map fun j => (range.recordPlace skipHeader i j,
            ws.get? (range.recordPlace skipHeader (σ i) j).1
              (range.recordPlace skipHeader (σ i) j).2) := by
  have hcmp := transCmp_compareKeys hpre order
  obtain ⟨σ, hsort, hσ⟩ := @exists_stableSort_finRange _ _ hcmp
  refine ⟨σ, .of_byNumber hσ, ?_⟩
  unfold sortedCells
  dsimp only
  rw [sortSlots_eq, List.map_map, stableSort_map]
  simp only [Function.comp_apply, read_record hkey]
  rw [hsort, List.map_map, List.zip_map', List.flatMap_map]
  refine congrArg (List.flatMap · _) (funext fun i => ?_)
  simp only [Function.comp_apply, read_record hkey]
  exact List.zip_map'

/-- No two cells of records have the same place. -/
theorem recordPlace_injective {i i' j j' : Nat} (hj : j < range.recordWidth)
    (hj' : j' < range.recordWidth)
    (h : range.recordPlace skipHeader i j = range.recordPlace skipHeader i' j') :
    i = i' ∧ j = j' := by
  unfold RangeRef.recordWidth at hj hj'
  unfold RangeRef.recordPlace at h
  split at h <;> rename_i hone
  · rw [if_pos hone] at hj hj'
    rw [Prod.mk.injEq] at h
    omega
  · rw [Prod.mk.injEq] at h
    omega

end Records

/-! ## 4. Sorted sheets -/

/-- A cell of a record, on its sheet. -/
def RangeRef.recordCell (range : RangeRef) (skipHeader : Bool) (sheet record cell : Nat) :
    CellKey :=
  ⟨sheet, (range.recordPlace skipHeader record cell).1,
    (range.recordPlace skipHeader record cell).2⟩

/-- The records of a range have changed places, and nothing else has happened to literals, formula
    texts, styles, names, sizes and hidden rows. -/
structure RecordsMoved (range : RangeRef) (skipHeader : Bool) (sheet : Nat)
    (σ : Equiv.Perm (Fin (range.recordCount skipHeader))) (before after : List Worksheet) :
    Prop where
  /-- The place `i` holds, cell by cell, what the record `σ i` held. -/
  moved : ∀ i : Fin (range.recordCount skipHeader), ∀ j < range.recordWidth,
    inputIn after (range.recordCell skipHeader sheet i j) =
      inputIn before (range.recordCell skipHeader sheet (σ i) j)
  /-- What is no cell of a record is as it was. -/
  others : ∀ key, (∀ i : Fin (range.recordCount skipHeader), ∀ j < range.recordWidth,
    key ≠ range.recordCell skipHeader sheet i j) → inputIn after key = inputIn before key
  frames : SameFrames after before

namespace Edit

open Workbook

variable {wb : Workbook} {ws : Worksheet} {sheet keyCol : Nat} {range : RangeRef}
  {order : SortOrder} {skipHeader : Bool}

/-- Where there are not two records to put in order, nothing is done. -/
theorem sort_few (hws : wb.sheets[sheet]? = some ws) (hrange : ws.containsRange range = true)
    (hkey : range.rowCount ≠ 1 → range.firstCol ≤ keyCol ∧ keyCol ≤ range.lastCol)
    (hfew : range.recordCount skipHeader < 2) :
    sort sheet range order keyCol skipHeader wb = .ok false wb := by
  have hlen : (sortSlots range skipHeader).length < 2 := by
    rwa [sortSlots_eq, List.length_map, List.length_finRange]
  rw [sort, bind_ok (getSheet_ok hws), hrange, Bool.not_true, if_neg Bool.false_ne_true,
    if_neg fun h => h.2 (hkey h.1), if_pos hlen]
  rfl

/-- The cells that a sort puts into their places. -/
def sortedPuts (ws : Worksheet) (sheet : Nat) (order : SortOrder) (keyCol : Nat)
    (slots : List (List (Nat × Nat))) : List (CellKey × Cell) :=
  (sortedCells ws order keyCol slots).map fun x => (⟨sheet, x.1.1, x.1.2⟩, x.2.getD {})

theorem sort_many (order : SortOrder) (hws : wb.sheets[sheet]? = some ws)
    (hrange : ws.containsRange range = true)
    (hkey : range.rowCount ≠ 1 → range.firstCol ≤ keyCol ∧ keyCol ≤ range.lastCol)
    (hmany : 2 ≤ range.recordCount skipHeader) :
    (∀ x ∈ sortedPuts ws sheet order keyCol (sortSlots range skipHeader), wb.InGrid x.1) ∧
    ∃ seeds, sort sheet range order keyCol skipHeader wb = .ok true
      ((wb.putAll (sortedPuts ws sheet order keyCol (sortSlots range skipHeader))).recalculate
        seeds).2 := by
  have hgrid : ∀ x ∈ sortedCells ws order keyCol (sortSlots range skipHeader),
      wb.InGrid ⟨sheet, x.1.1, x.1.2⟩ := by
    intro ⟨⟨row, col⟩, cell⟩ hx
    exact ⟨ws, hws, inBounds_of_contains hrange (contains_of_mem_sortedCells hx)⟩
  refine ⟨List.forall_mem_map.mpr hgrid, ?_⟩
  have hlen : ¬(sortSlots range skipHeader).length < 2 := by
    rw [sortSlots_eq, List.length_map, List.length_finRange]
    exact Nat.not_lt.mpr hmany
  rw [sort, bind_ok (getSheet_ok hws), hrange, Bool.not_true, if_neg Bool.false_ne_true,
    if_neg fun h => h.2 (hkey h.1), if_neg hlen]
  exact ⟨_, bind_ok (forM_putCell Prod.snd hgrid)⟩

/-- Putting the cells of each record into the places of another one. -/
theorem recordsMoved_sortedPuts {σ : Equiv.Perm (Fin (range.recordCount skipHeader))}
    (hw : wb.WellFormed) (hws : wb.sheets[sheet]? = some ws)
    (hin : ∀ x ∈ sortedPuts ws sheet order keyCol (sortSlots range skipHeader), wb.InGrid x.1)
    (hcells : sortedCells ws order keyCol (sortSlots range skipHeader) =
      (List.finRange (range.recordCount skipHeader)).flatMap fun i : Fin _ =>
        (List.range range.recordWidth).map fun j => (range.recordPlace skipHeader i j,
          ws.get? (range.recordPlace skipHeader (σ i) j).1
            (range.recordPlace skipHeader (σ i) j).2)) :
    RecordsMoved range skipHeader sheet σ wb.sheets
      (wb.putAll (sortedPuts ws sheet order keyCol (sortSlots range skipHeader))).sheets := by
  have hcell : ∀ i j, cellIn wb.sheets (range.recordCell skipHeader sheet i j) =
      ws.get? (range.recordPlace skipHeader i j).1 (range.recordPlace skipHeader i j).2 :=
    fun _ _ => cellIn_eq hws
  have hmem : ∀ x, x ∈ sortedPuts ws sheet order keyCol (sortSlots range skipHeader) ↔
      ∃ i : Fin (range.recordCount skipHeader), ∃ j < range.recordWidth,
        (range.recordCell skipHeader sheet i j,
          (cellIn wb.sheets (range.recordCell skipHeader sheet (σ i) j)).getD {}) = x := by
    intro x
    simp only [sortedPuts, hcells, List.mem_map, List.mem_flatMap, List.mem_finRange, true_and,
      List.mem_range, hcell]
    constructor
    · rintro ⟨_, ⟨i, j, hj, rfl⟩, rfl⟩
      exact ⟨i, j, hj, rfl⟩
    · rintro ⟨i, j, hj, rfl⟩
      exact ⟨_, ⟨i, j, hj, rfl⟩, rfl⟩
  refine ⟨fun i j hj => ?_, fun key hkey => ?_, sameFrames_putAll wb _⟩
  · rw [inputIn_putAll_of_unique hin ((hmem _).mpr ⟨i, j, hj, rfl⟩) fun other hother => ?_,
      hw.input_cellIn_unlessBlank]
    obtain ⟨i', j', hj', he⟩ := (hmem _).mp hother
    obtain ⟨hplace, rfl⟩ := Prod.mk.inj he
    obtain ⟨-, hrow, hcol⟩ := CellKey.mk.inj hplace
    obtain ⟨hi, rfl⟩ := recordPlace_injective hj' hj (Prod.ext hrow hcol)
    rw [Fin.ext hi]
  · refine inputIn_putAll_of_not hin fun x hx he => ?_
    obtain ⟨i, j, hj, rfl⟩ := (hmem x).mp hx
    exact hkey i j hj he.symm

/-- **A sort is a stable rearrangement of whole records.** If there are not two of them, nothing is
    done. Otherwise each place holds in the end what another record held, cell by cell, with its
    formulas, literals and styles and the cells that it did not have; the keys, as they were before,
    go up or down with the blank ones last, equal ones have kept their order, and all other cells
    are as they were. -/
theorem sort_records (hw : wb.WellFormed) (hws : wb.sheets[sheet]? = some ws)
    (hrange : ws.containsRange range = true)
    (hkey : range.rowCount ≠ 1 → range.firstCol ≤ keyCol ∧ keyCol ≤ range.lastCol)
    (hpre : Value.PreordersOn {v | v.isBlank = false ∧
      ∃ i : Fin (range.recordCount skipHeader), ws.recordKey range skipHeader keyCol i = v}) :
    (range.recordCount skipHeader < 2 →
      sort sheet range order keyCol skipHeader wb = .ok false wb) ∧
    (2 ≤ range.recordCount skipHeader → ∃ wb' σ,
      sort sheet range order keyCol skipHeader wb = .ok true wb' ∧
      StableOrder order (fun i => ws.recordKey range skipHeader keyCol i) σ ∧
      RecordsMoved range skipHeader sheet σ wb.sheets wb'.sheets) := by
  refine ⟨sort_few hws hrange hkey, fun hmany => ?_⟩
  obtain ⟨hin, seeds, hsort⟩ := sort_many order hws hrange hkey hmany
  obtain ⟨σ, hσ, hcells⟩ := exists_sortedCells order hkey hpre
  have hmoved := recordsMoved_sortedPuts hw hws hin hcells
  have hpass := sameInputs_recalculate (hw.putAll hin) seeds
  refine ⟨_, σ, hsort, hσ, fun i j hj => ?_, fun key hother => ?_, hpass.frames.trans hmoved.frames⟩
  · rw [hpass.inputs, hmoved.moved i j hj]
  · rw [hpass.inputs, hmoved.others key hother]

/-- Two rows with the same key, and an empty one between them. -/
def sameKeys : Workbook :=
  (create ⟨20, 10⟩ ⟨default, fun _ => 0⟩).putAll
    [(⟨0, 0, 0⟩, .ofValue (.boolean true)), (⟨0, 0, 1⟩, .ofValue (.text "first")),
      (⟨0, 2, 0⟩, .ofValue (.boolean true)), (⟨0, 2, 1⟩, .ofValue (.text "second"))]

/-- The empty row goes down, and the others keep their order. -/
theorem sort_records_sameKeys :
    ∃ wb', sort 0 (.between 0 0 2 1) .descending 0 false sameKeys = .ok true wb' ∧
      inputIn wb'.sheets ⟨0, 0, 1⟩ = some (.ofValue (.text "first")) ∧
      inputIn wb'.sheets ⟨0, 1, 1⟩ = some (.ofValue (.text "second")) ∧
      inputIn wb'.sheets ⟨0, 2, 1⟩ = none := by
  have hw : sameKeys.WellFormed := (wellFormed_create _ _).putAll fun x hx => by
    simp only [List.mem_cons, List.not_mem_nil, or_false] at hx
    rcases hx with rfl | rfl | rfl | rfl <;> exact ⟨_, rfl, by decide⟩
  obtain ⟨ws, hws, hrange, hfirst, hsecond, hthird⟩ : ∃ ws, sameKeys.sheets[0]? = some ws ∧
      ws.containsRange (.between 0 0 2 1) = true ∧
      ws.recordKey (.between 0 0 2 1) false 0 0 = .boolean true ∧
      ws.recordKey (.between 0 0 2 1) false 0 1 = .empty ∧
      ws.recordKey (.between 0 0 2 1) false 0 2 = .boolean true :=
    ⟨_, rfl, rfl, rfl, rfl, rfl⟩
  have hpre : Value.PreordersOn {v | v.isBlank = false ∧ ∃ i : Fin 3,
      ws.recordKey (.between 0 0 2 1) false 0 i = v} := by
    refine Value.preordersOn_booleans.mono fun v hv => ?_
    obtain ⟨hblank, i, rfl⟩ := hv
    match i with
    | 0 => exact ⟨true, hfirst.symm⟩
    | 1 => exact absurd ((congrArg Value.isBlank hsecond).symm.trans hblank) (by decide)
    | 2 => exact ⟨true, hthird.symm⟩
  obtain ⟨wb', σ, hsort, hσ, hmoved⟩ : ∃ wb' σ,
      sort 0 (.between 0 0 2 1) .descending 0 false sameKeys = .ok true wb' ∧
      StableOrder .descending
        (fun i : Fin 3 => ws.recordKey (.between 0 0 2 1) false 0 i) σ ∧
      RecordsMoved (.between 0 0 2 1) false 0 σ sameKeys.sheets wb'.sheets :=
    (@sort_records _ _ _ _ _ .descending false hw hws hrange (fun _ => by decide) hpre).2
      (by decide)
  obtain ⟨h0, h1, h2⟩ :=
    hσ.blank_between hfirst (congrArg Value.isBlank hsecond) hthird rfl rfl
  have hplace : ∀ i, (RangeRef.between 0 0 2 1).recordCell false 0 i 1 = ⟨0, i, 1⟩ := fun i =>
    congrArg (CellKey.mk 0 · 1) (Nat.zero_add i)
  have hlabel : ∀ i : Fin 3, inputIn wb'.sheets ⟨0, i, 1⟩ = inputIn sameKeys.sheets ⟨0, σ i, 1⟩ :=
    fun i => by
      rw [← hplace, ← hplace]
      exact hmoved.moved i 1 (by decide)
  refine ⟨wb', hsort, ?_, ?_, ?_⟩
  · exact (hlabel 0).trans (by rw [h0]; rfl)
  · exact (hlabel 1).trans (by rw [h1]; rfl)
  · exact (hlabel 2).trans (by rw [h2]; rfl)

end Edit

end Gridcalc
