import Gridcalc.Builtin.Lookup
import Gridcalc.Proofs.Workbook.SortKeys

/-!
# Searches in sorted values

The search in sorted values passes over the values of other kinds and stops at the first one past
the sought value. Where the values of its kind are sorted nothing is missed by that.

* `InOrder`, `Eligible`, `Nearest`: sorted values, the places that may be found, and the one that
  should be;
* `findSorted?_cases`: **the last place that may be found is found**;
* `tableLookup_cases`, `matchPlace_cases`, `sortedSearch_nearest`: so lookups in tables and places
  in lines are those of the nearest value, the last one among equals.
-/

namespace Gridcalc.Builtin

/-! ## 1. Sorted values -/

/-- How a value compares that is past the sought one: above it, or below it where the order goes
    down. -/
def past (descending : Bool) : Ordering := if descending then .lt else .gt

/-- The values of the kind of the sought one are sorted, by an order that is a total preorder on
    them and the sought one. Values of other kinds may stand anywhere. -/
structure InOrder (descending : Bool) (sought : Value) (values : List Value) : Prop where
  preorder : Value.PreordersOn {v | v = sought ∨ v ∈ values ∧ sameKind sought v = true}
  sorted : (values.filter (sameKind sought)).Pairwise fun a b => a.compare b ≠ past descending

/-- At the place a value of the kind of the sought one stands that is not past it. -/
def Eligible (descending : Bool) (sought : Value) (values : List Value) (i : Nat) : Prop :=
  ∃ v, values[i]? = some v ∧ sameKind sought v = true ∧ v.compare sought ≠ past descending

/-- The value at the place is of the kind of the sought one and not past it, and no other such value
    is past this one, or stands behind it. -/
structure Nearest (descending : Bool) (sought : Value) (values : List Value) (i : Nat) (v : Value) :
    Prop where
  entry : values[i]? = some v
  kind : sameKind sought v = true
  within : v.compare sought ≠ past descending
  nearest : ∀ (j : Nat) w, values[j]? = some w → sameKind sought w = true →
    w.compare sought ≠ past descending → w.compare v ≠ past descending
  last : ∀ (j : Nat) w, values[j]? = some w → sameKind sought w = true →
    w.compare sought ≠ past descending → j ≤ i

section Order

variable {descending : Bool} {sought a b c v : Value} {values vs : List Value} {i : Nat}

/-- What is not past what is not past a third value is not past that one. -/
theorem ne_past_trans {s : Set Value} (h : Value.PreordersOn s) (ha : a ∈ s) (hb : b ∈ s)
    (hc : c ∈ s) (hab : a.compare b ≠ past descending) (hbc : b.compare c ≠ past descending) :
    a.compare c ≠ past descending := by
  cases descending with
  | false =>
    have hle := h.trans a ha b hb c hc (Ordering.isLE_iff_ne_gt.mpr hab)
      (Ordering.isLE_iff_ne_gt.mpr hbc)
    exact Ordering.isLE_iff_ne_gt.mp hle
  | true =>
    have hturned : ∀ x ∈ s, ∀ y ∈ s, x.compare y ≠ .lt ↔ (y.compare x).isLE = true := by
      intro x hx y hy
      rw [h.swap y hy x hx]
      cases x.compare y <;> decide
    have hle := h.trans c hc b hb a ha ((hturned b hb c hc).mp hbc) ((hturned a ha b hb).mp hab)
    exact (hturned a ha c hc).mpr hle

theorem InOrder.tail (h : InOrder descending sought (v :: vs)) : InOrder descending sought vs where
  preorder := h.preorder.mono fun _ hw => hw.imp_right fun ⟨hmem, hkind⟩ =>
    ⟨List.mem_cons_of_mem _ hmem, hkind⟩
  sorted := h.sorted.sublist ((List.sublist_cons_self v vs).filter _)

/-- Behind a value past the sought one all of its kind are past it. -/
theorem InOrder.past_tail (h : InOrder descending sought (v :: vs))
    (hkind : sameKind sought v = true) (hpast : v.compare sought = past descending) :
    ∀ i, ¬Eligible descending sought (v :: vs) i := by
  rintro i ⟨w, hw, hkindw, hwithin⟩
  have hmem : w ∈ v :: vs := List.mem_of_getElem? hw
  rcases List.mem_cons.mp hmem with rfl | hmem'
  · exact hwithin hpast
  · have hsorted := h.sorted
    rw [List.filter_cons_of_pos hkind] at hsorted
    have hvw := List.rel_of_pairwise_cons hsorted (List.mem_filter.mpr ⟨hmem', hkindw⟩)
    exact ne_past_trans h.preorder (.inr ⟨List.mem_cons_self, hkind⟩) (.inr ⟨hmem, hkindw⟩)
      (.inl rfl) hvw hwithin hpast

/-- A place is the last one that may be found. -/
def IsLast (descending : Bool) (sought : Value) (values : List Value) (i : Nat) : Prop :=
  Eligible descending sought values i ∧ ∀ j, Eligible descending sought values j → j ≤ i

theorem IsLast.cons (h : IsLast descending sought vs i) (v : Value) :
    IsLast descending sought (v :: vs) (i + 1) := by
  refine ⟨h.1, fun j hj => ?_⟩
  cases j with
  | zero => exact Nat.zero_le _
  | succ j => exact Nat.succ_le_succ (h.2 j hj)

/-! ## 2. One pass -/

section Steps

variable {k : Nat} {best : Option Nat} {entries : List (Value × Nat)}

theorem findSorted?_skip (hkind : sameKind sought v = false) :
    findSorted? descending sought best ((v, k) :: entries) =
      findSorted? descending sought best entries := by
  rw [findSorted?, hkind]
  rfl

theorem findSorted?_stop (hkind : sameKind sought v = true)
    (hpast : v.compare sought = past descending) :
    findSorted? descending sought best ((v, k) :: entries) = best := by
  rw [findSorted?, hkind]
  exact if_pos hpast

theorem findSorted?_pass (hkind : sameKind sought v = true)
    (hwithin : v.compare sought ≠ past descending) :
    findSorted? descending sought best ((v, k) :: entries) =
      findSorted? descending sought (some k) entries := by
  rw [findSorted?, hkind]
  exact if_neg hwithin

end Steps

/-- From some values the last place that may be found is found, and where there is none, what has
    been found in front of them. -/
theorem findSorted?_cases (h : InOrder descending sought values) (k : Nat) (best : Option Nat) :
    (∃ i, IsLast descending sought values i ∧
        findSorted? descending sought best (values.zipIdx k) = some (k + i)) ∨
      (∀ i, ¬Eligible descending sought values i) ∧
        findSorted? descending sought best (values.zipIdx k) = best := by
  induction values generalizing k best with
  | nil => exact .inr ⟨fun i ⟨v, hv, _⟩ => (nomatch hv), rfl⟩
  | cons v vs ih =>
    rw [List.zipIdx_cons]
    cases hkind : sameKind sought v with
    | false =>
      rw [findSorted?_skip hkind]
      refine (ih h.tail (k + 1) best).imp ?_ ?_
      · rintro ⟨i, hlast, hfound⟩
        exact ⟨i + 1, hlast.cons v, by rw [hfound, Nat.add_assoc, Nat.add_comm 1]⟩
      · rintro ⟨hnone, hfound⟩
        refine ⟨fun i => ?_, hfound⟩
        cases i with
        | zero =>
          rintro ⟨w, ⟨⟩, hkindw, -⟩
          rw [hkind] at hkindw
          cases hkindw
        | succ i => exact hnone i
    | true =>
      by_cases hpast : v.compare sought = past descending
      · rw [findSorted?_stop hkind hpast]
        exact .inr ⟨h.past_tail hkind hpast, rfl⟩
      · rw [findSorted?_pass hkind hpast]
        left
        rcases ih h.tail (k + 1) (some k) with ⟨i, hlast, hfound⟩ | ⟨hnone, hfound⟩
        · exact ⟨i + 1, hlast.cons v, by rw [hfound, Nat.add_assoc, Nat.add_comm 1]⟩
        · refine ⟨0, ⟨⟨v, rfl, hkind, hpast⟩, fun j hj => ?_⟩, hfound⟩
          cases j with
          | zero => exact Nat.le_refl 0
          | succ j => exact absurd hj (hnone j)

/-- The last place that may be found is that of the nearest value, the last one among equals. -/
theorem IsLast.nearest (h : InOrder descending sought values)
    (hlast : IsLast descending sought values i) :
    ∃ v, Nearest descending sought values i v := by
  obtain ⟨⟨v, hv, hkind, hwithin⟩, hmax⟩ := hlast
  have hv' : v ∈ {v | v = sought ∨ v ∈ values ∧ sameKind sought v = true} :=
    .inr ⟨List.mem_of_getElem? hv, hkind⟩
  refine ⟨v, hv, hkind, hwithin, fun j w hw hkindw hwithinw => ?_, fun j w hw hkindw hwithinw =>
    hmax j ⟨w, hw, hkindw, hwithinw⟩⟩
  rcases Nat.lt_or_eq_of_le (hmax j ⟨w, hw, hkindw, hwithinw⟩) with hlt | rfl
  · have hsorted := List.pairwise_iff_getElem.mp (List.pairwise_filter.mp h.sorted)
    obtain ⟨hi, rfl⟩ := List.getElem?_eq_some_iff.mp hv
    obtain ⟨hj, rfl⟩ := List.getElem?_eq_some_iff.mp hw
    exact hsorted j i hj hi hlt hkindw hkind
  · obtain rfl := Option.some.inj (hv.symm.trans hw)
    have hself : v.compare v = (v.compare v).swap := h.preorder.swap v hv' v hv'
    cases horder : v.compare v with
    | eq => cases descending <;> exact nofun
    | lt => rw [horder] at hself; cases hself
    | gt => rw [horder] at hself; cases hself

theorem findSorted?_eq_some_iff (h : InOrder descending sought values) :
    findSorted? descending sought none values.zipIdx = some i ↔
      IsLast descending sought values i := by
  rcases findSorted?_cases h 0 none with ⟨j, hlast, hfound⟩ | ⟨hnone, hfound⟩
  · rw [hfound, Nat.zero_add, Option.some_inj]
    constructor
    · rintro rfl
      exact hlast
    · exact fun hi => Nat.le_antisymm (hi.2 j hlast.1) (hlast.2 i hi.1)
  · rw [hfound]
    exact ⟨nofun, fun hi => absurd hi.1 (hnone i)⟩

theorem findSorted?_eq_none_iff (h : InOrder descending sought values) :
    findSorted? descending sought none values.zipIdx = none ↔
      ∀ i, ¬Eligible descending sought values i := by
  rcases findSorted?_cases h 0 none with ⟨j, hlast, hfound⟩ | ⟨hnone, hfound⟩
  · rw [hfound]
    exact ⟨nofun, fun hnone => absurd hlast.1 (hnone j)⟩
  · exact ⟨fun _ => hnone, fun _ => hfound⟩

end Order

/-! ## 3. Lookups -/

/-- The keys of a table: the values of its first column, or of its first row. -/
def tableKeys (horizontal : Bool) (table : RangeView) : List Value :=
  if horizontal then table.rowValues 0 else table.colValues 0

/-- The value so many columns beside a key, or so many rows below it. -/
def besideKey (horizontal : Bool) (table : RangeView) (place offset : Nat) : Value :=
  if horizontal then table.value offset place else table.value place offset

/-- How many values there are with each key. -/
def tableWidth (horizontal : Bool) (table : RangeView) : Nat :=
  if horizontal then table.rowCount else table.colCount

section Lookups

variable {horizontal : Bool} {args : List Arg} {ctx : Context} {sought v : Value}
  {table view : RangeView} {values : List Value} {x kind : Float} {i : Nat}

/-- Nothing beside a key stands the key itself. -/
theorem besideKey_zero (h : (tableKeys horizontal table)[i]? = some v) :
    besideKey horizontal table i 0 = v := by
  cases horizontal with
  | true =>
    obtain ⟨hi, hv⟩ := List.getElem?_eq_some_iff.mp h
    rw [← hv]
    exact (by simp [tableKeys, RangeView.rowValues, besideKey])
  | false =>
    obtain ⟨hi, hv⟩ := List.getElem?_eq_some_iff.mp h
    rw [← hv]
    exact (by simp [tableKeys, RangeView.colValues, besideKey])

/-- What a function makes of the place of the nearest value, which may be missing. -/
theorem orRefuse_cases {descending : Bool} (h : InOrder descending sought values)
    (f : Nat → Value) :
    (∃ i v, Nearest descending sought values i v ∧
        (Outcome.orRefuse .notAvailable (findSorted? descending sought none values.zipIdx)).map f =
          .ok (f i)) ∨
      (∀ i, ¬Eligible descending sought values i) ∧
        (Outcome.orRefuse .notAvailable (findSorted? descending sought none values.zipIdx)).map f =
          Outcome.refuse .notAvailable := by
  rcases findSorted?_cases h 0 none with ⟨i, hlast, hfound⟩ | ⟨hnone, hfound⟩
  · obtain ⟨v, hnearest⟩ := hlast.nearest h
    rw [hfound, Nat.zero_add]
    exact .inl ⟨i, v, hnearest, rfl⟩
  · rw [hfound]
    exact .inr ⟨hnone, rfl⟩

/-- A lookup in a table with sorted keys. -/
theorem tableLookup_cases (hsought : soughtAt args = .ok sought)
    (htable : rangeAt args 1 = .ok table) (hindex : numberAt args 2 = .ok x)
    (happroximate : booleanAtOr args 3 true = .ok true)
    (hlow : ¬wholeOf x < 1) (hhigh : ¬Float.ofNat (tableWidth horizontal table) < wholeOf x)
    (h : InOrder false sought (tableKeys horizontal table)) :
    (∃ i v, Nearest false sought (tableKeys horizontal table) i v ∧
        tableLookup horizontal args ctx =
          .ok (besideKey horizontal table i (placeBefore (toCount (wholeOf x))))) ∨
      (∀ i, ¬Eligible false sought (tableKeys horizontal table) i) ∧
        tableLookup horizontal args ctx = .refuse .notAvailable := by
  have hrun : tableLookup horizontal args ctx =
      (Outcome.orRefuse .notAvailable
        (findSorted? false sought none (tableKeys horizontal table).zipIdx)).map fun place =>
          besideKey horizontal table place (placeBefore (toCount (wholeOf x))) := by
    unfold tableLookup
    rw [hsought, htable, hindex, happroximate]
    show (if wholeOf x < 1 then _ else if Float.ofNat (tableWidth horizontal table) < wholeOf x
      then _ else _) = _
    rw [if_neg hlow, if_neg hhigh]
    show (Outcome.orRefuse .notAvailable
      (findSorted? false sought none (tableKeys horizontal table).zipIdx) >>= _) = _
    cases findSorted? false sought none (tableKeys horizontal table).zipIdx <;> rfl
  rw [hrun]
  exact orRefuse_cases h _

/-- The place of a value in a sorted line. -/
theorem matchPlace_cases (hsought : soughtAt args = .ok sought) (hview : rangeAt args 1 = .ok view)
    (hline : line? view = some values) (hkind : numberAtOr args 2 1 = .ok kind)
    (hsorted : (kind == 0) = false) (h : InOrder (kind < 0) sought values) :
    (∃ i v, Nearest (kind < 0) sought values i v ∧
        matchPlace args ctx = .ok (.number (Float.ofNat (i + 1)))) ∨
      (∀ i, ¬Eligible (kind < 0) sought values i) ∧
        matchPlace args ctx = .refuse .notAvailable := by
  have hrun : matchPlace args ctx =
      (Outcome.orRefuse .notAvailable (findSorted? (kind < 0) sought none values.zipIdx)).map
        fun place => .number (Float.ofNat (place + 1)) := by
    unfold matchPlace
    rw [hsought, hview]
    show (Outcome.orRefuse .notAvailable (line? view) >>= _) = _
    rw [hline]
    show (numberAtOr args 2 1 >>= _) = _
    rw [hkind]
    show (Outcome.orRefuse .notAvailable (if kind == 0 then _ else _) >>= _) = _
    rw [hsorted]
    show (Outcome.orRefuse .notAvailable
      (findSorted? (kind < 0) sought none values.zipIdx) >>= _) = _
    cases findSorted? (kind < 0) sought none values.zipIdx <;> rfl
  rw [hrun]
  exact orRefuse_cases h _

end Lookups

/-- **A search in sorted values finds the nearest one.** The place that is found is the last one
    with a value of the kind of the sought one that is not past it, and none is found exactly if
    there is no such place. So a lookup in a table and a place in a line are those of the greatest
    value that is not above the sought one (the least that is not below it, where the order goes
    down), the last one among equals. -/
theorem sortedSearch_nearest :
    (∀ (descending : Bool) (sought : Value) (values : List Value),
      InOrder descending sought values →
      (∀ i, findSorted? descending sought none values.zipIdx = some i ↔
        IsLast descending sought values i) ∧
      (findSorted? descending sought none values.zipIdx = none ↔
        ∀ i, ¬Eligible descending sought values i)) ∧
    (∀ (horizontal : Bool) (args : List Arg) (ctx : Context) (sought : Value) (table : RangeView)
        (x : Float), soughtAt args = .ok sought → rangeAt args 1 = .ok table →
      numberAt args 2 = .ok x → booleanAtOr args 3 true = .ok true → ¬wholeOf x < 1 →
      ¬Float.ofNat (tableWidth horizontal table) < wholeOf x →
      InOrder false sought (tableKeys horizontal table) →
      (∃ i v, Nearest false sought (tableKeys horizontal table) i v ∧
          besideKey horizontal table i 0 = v ∧
          tableLookup horizontal args ctx =
            .ok (besideKey horizontal table i (placeBefore (toCount (wholeOf x))))) ∨
        (∀ i, ¬Eligible false sought (tableKeys horizontal table) i) ∧
          tableLookup horizontal args ctx = .refuse .notAvailable) ∧
    ∀ (args : List Arg) (ctx : Context) (sought : Value) (view : RangeView) (values : List Value)
        (kind : Float), soughtAt args = .ok sought → rangeAt args 1 = .ok view →
      line? view = some values → numberAtOr args 2 1 = .ok kind → (kind == 0) = false →
      InOrder (kind < 0) sought values →
      (∃ i v, Nearest (kind < 0) sought values i v ∧
          matchPlace args ctx = .ok (.number (Float.ofNat (i + 1)))) ∨
        (∀ i, ¬Eligible (kind < 0) sought values i) ∧
          matchPlace args ctx = .refuse .notAvailable := by
  refine ⟨fun descending sought values h => ⟨fun i => findSorted?_eq_some_iff h,
    findSorted?_eq_none_iff h⟩, ?_, ?_⟩
  · intro horizontal args ctx sought table x hsought htable hindex happroximate hlow hhigh h
    refine (tableLookup_cases hsought htable hindex happroximate hlow hhigh h).imp_left ?_
    rintro ⟨i, v, hnearest, hrun⟩
    exact ⟨i, v, hnearest, besideKey_zero hnearest.entry, hrun⟩
  · intro args ctx sought view values kind hsought hview hline hkind hsorted h
    exact matchPlace_cases hsought hview hline hkind hsorted h

/-- A column with truth values among others, up to the column `last`, where a text stands beside the
    last `FALSE`. -/
def mixedColumn (last : Nat) : RangeView :=
  let store := ((((({} : CellStore).put 0 0 { value := .text "x" }).put 1 0
    { value := .boolean false }).put 3 0 { value := .boolean false }).put 4 0
    { value := .boolean true }).put 3 1 { value := .text "y" }
  ⟨{ Worksheet.create "Sheet1" 20 10 with store }, .between 0 0 4 last⟩

/-- The last `FALSE` is found, in the values and by a lookup in a table and a place in a line. -/
theorem sortedSearch_nearest_mixed :
    findSorted? false (.boolean false) none (tableKeys false (mixedColumn 1)).zipIdx = some 3 ∧
    tableLookup false [.value (.boolean false), .range (mixedColumn 1), .value (.number 2)]
      emptyContext = .ok (.text "y") ∧
    matchPlace [.value (.boolean false), .range (mixedColumn 0)] emptyContext =
      .ok (.number (Float.ofNat 4)) := by
  have hkeys : tableKeys false (mixedColumn 1) =
      [.text "x", .boolean false, .empty, .boolean false, .boolean true] := by decide +kernel
  have hline : line? (mixedColumn 0) = some (tableKeys false (mixedColumn 1)) := by
    decide +kernel
  have horder : InOrder false (.boolean false) (tableKeys false (mixedColumn 1)) := by
    refine ⟨Value.preordersOn_booleans.mono ?_, ?_⟩
    · rintro v (rfl | ⟨-, hkind⟩)
      · exact ⟨false, rfl⟩
      · cases v <;> first | exact ⟨_, rfl⟩ | cases hkind
    · rw [hkeys]
      decide +kernel
  have hfound : findSorted? false (.boolean false) none (tableKeys false (mixedColumn 1)).zipIdx =
      some 3 := by
    rw [hkeys]
    decide +kernel
  have hlast := ((sortedSearch_nearest.1 false _ _ horder).1 3).mp hfound
  have hplace : ∀ i v, Nearest false (.boolean false) (tableKeys false (mixedColumn 1)) i v →
      i = 3 := by
    intro i v h
    obtain ⟨⟨w, hw, hkind, hwithin⟩, hmax⟩ := hlast
    exact Nat.le_antisymm (hmax i ⟨v, h.entry, h.kind, h.within⟩) (h.last 3 w hw hkind hwithin)
  refine ⟨hfound, ?_, ?_⟩
  · rcases sortedSearch_nearest.2.1 false
      [.value (.boolean false), .range (mixedColumn 1), .value (.number 2)] emptyContext
      (.boolean false) (mixedColumn 1) 2 rfl rfl rfl rfl (by decide +kernel) (by decide +kernel)
      horder with ⟨i, v, h, -, hrun⟩ | ⟨hnone, -⟩
    · obtain rfl := hplace i v h
      exact hrun.trans (by decide +kernel)
    · exact absurd hlast.1 (hnone 3)
  · have hascending : decide ((1 : Float) < 0) = false := by decide +kernel
    rcases sortedSearch_nearest.2.2 [.value (.boolean false), .range (mixedColumn 0)] emptyContext
      (.boolean false) (mixedColumn 0) _ 1 rfl rfl hline rfl (by decide +kernel)
      (hascending ▸ horder) with ⟨i, v, h, hrun⟩ | ⟨hnone, -⟩
    · rw [hascending] at h
      obtain rfl := hplace i v h
      exact hrun
    · rw [hascending] at hnone
      exact absurd hlast.1 (hnone 3)

end Gridcalc.Builtin
