import Gridcalc.Builtin.Lookup
import Gridcalc.Proofs.Workbook.SortKeys

/-!
# Searches for the nearest value

The search for an equal value or else for the nearest one on one side goes through the values in
either direction, sorted or not. It ends at an equal value, and keeps the nearest one so far until
then.

* `Stands`, `FirstEqual`, `FirstNearest`: what should be found, the values that are equal and the
  nearest ones apart;
* `Best`: what is kept, as an invariant of the search, and `Best.step`: each value keeps it;
* `findNearest?_cases`: **an equal value is found, or else the nearest one of all**;
* `nearestSearch_optimal`: so it is with the places of lines, and with what stands beside them.
-/

namespace Gridcalc.Builtin

open Std

/-! ## 1. What should be found -/

/-- The value is of the kind of the sought one and compares with it in the given way. -/
def Stands (order : Ordering) (sought v : Value) : Prop :=
  sameKind sought v = true ∧ v.compare sought = order

/-- A search comes to the first place before the second one. -/
def Ahead (backwards : Bool) (i j : Nat) : Prop := if backwards then j < i else i < j

/-- Values with their places in the order in which a search comes to them. -/
def inDirection (backwards : Bool) (values : List Value) : List (Value × Nat) :=
  if backwards then values.zipIdx.reverse else values.zipIdx

/-- The side on which a search looks for the nearest value if there is no equal one. -/
def SearchMode.side? : SearchMode → Option Ordering
  | .nearestBelow => some .lt
  | .nearestAbove => some .gt
  | .exact | .pattern => none

/-- At the place the first value stands that is equal to the sought one. -/
structure FirstEqual (backwards : Bool) (sought : Value) (values : List Value) (i : Nat) :
    Prop where
  entry : ∃ v, values[i]? = some v ∧ Stands .eq sought v
  first : ∀ (j : Nat) w, values[j]? = some w → Stands .eq sought w → ¬Ahead backwards j i

/-- No value is equal to the sought one, and at the place the first of those stands that are nearest
    to it on one side. -/
structure FirstNearest (side : Ordering) (backwards : Bool) (sought : Value) (values : List Value)
    (i : Nat) (v : Value) : Prop where
  entry : values[i]? = some v
  beside : Stands side sought v
  unequal : ∀ w ∈ values, ¬Stands .eq sought w
  nearest : ∀ w ∈ values, Stands side sought w → w.compare v ≠ side.swap
  first : ∀ (j : Nat) w, values[j]? = some w → Stands side sought w → w.compare v = .eq →
    ¬Ahead backwards j i

/-- The place that a search should find. -/
def Sought (side : Ordering) (backwards : Bool) (sought : Value) (values : List Value) (i : Nat) :
    Prop :=
  FirstEqual backwards sought values i ∨ ∃ v, FirstNearest side backwards sought values i v

section Directions

variable {backwards : Bool} {values : List Value} {i j : Nat}

theorem Ahead.irrefl (i : Nat) : ¬Ahead backwards i i := by
  cases backwards <;> exact Nat.lt_irrefl i

theorem Ahead.asymm (h : Ahead backwards i j) : ¬Ahead backwards j i := by
  cases backwards <;> exact Nat.lt_asymm h

theorem Ahead.total (backwards : Bool) (i j : Nat) :
    Ahead backwards i j ∨ i = j ∨ Ahead backwards j i := by
  cases backwards with
  | false => exact Nat.lt_trichotomy i j
  | true => exact (Nat.lt_trichotomy j i).imp_right (Or.imp_left Eq.symm)

theorem mem_inDirection {e : Value × Nat} :
    e ∈ inDirection backwards values ↔ values[e.2]? = some e.1 := by
  cases backwards with
  | false => exact List.mem_zipIdx_iff_getElem?
  | true => exact List.mem_reverse.trans List.mem_zipIdx_iff_getElem?

/-- A search comes to the places one after the other. -/
theorem pairwise_inDirection (backwards : Bool) (values : List Value) :
    (inDirection backwards values).Pairwise fun x y => Ahead backwards x.2 y.2 := by
  have hforwards : values.zipIdx.Pairwise fun x y => x.2 < y.2 := by
    rw [← List.pairwise_map, List.zipIdx_map_snd]
    exact List.pairwise_lt_range'
  cases backwards with
  | false => exact hforwards
  | true => exact List.pairwise_reverse.mpr hforwards

end Directions

/-! ## 2. One pass -/

/-- Whether a value is nearer than the best one so far. -/
def isNearer (side : Ordering) (best : Option (Value × Nat)) (v : Value) : Bool :=
  match best with
  | none => true
  | some (b, _) => v.compare b == side.swap

/-- The best of the values gone by: the first of those that are nearest on one side. -/
def Best (side : Ordering) (backwards : Bool) (sought : Value) (seen : List (Value × Nat)) :
    Option (Value × Nat) → Prop
  | none => ∀ x ∈ seen, ¬Stands side sought x.1
  | some b => b ∈ seen ∧ Stands side sought b.1 ∧ ∀ x ∈ seen, Stands side sought x.1 →
      x.1.compare b.1 ≠ side.swap ∧ (x.1.compare b.1 = .eq → ¬Ahead backwards x.2 b.2)

section Pass

variable {side : Ordering} {backwards : Bool} {sought v : Value} {i : Nat}
  {best : Option (Value × Nat)} {seen entries : List (Value × Nat)} {values : Set Value}

theorem findNearest?_cons :
    findNearest? side sought best ((v, i) :: entries) =
      if !sameKind sought v then findNearest? side sought best entries
      else if v.compare sought = .eq then some i
      else findNearest? side sought
        (if v.compare sought = side && isNearer side best v then some (v, i) else best)
        entries := by
  cases best <;> rfl

theorem findNearest?_skip (hkind : sameKind sought v = false) :
    findNearest? side sought best ((v, i) :: entries) = findNearest? side sought best entries := by
  rw [findNearest?_cons, hkind]
  rfl

theorem findNearest?_equal (h : Stands .eq sought v) :
    findNearest? side sought best ((v, i) :: entries) = some i := by
  rw [findNearest?_cons, h.1]
  exact if_pos h.2

theorem findNearest?_unequal (hkind : sameKind sought v = true) (hne : v.compare sought ≠ .eq) :
    findNearest? side sought best ((v, i) :: entries) =
      findNearest? side sought
        (if v.compare sought = side && isNearer side best v then some (v, i) else best)
        entries := by
  rw [findNearest?_cons, hkind]
  exact if_neg hne

/-- If a value is beyond a third one on a side, so is every value that is not nearer than it. -/
theorem eq_side_of_ne_swap (h : Value.PreordersOn values) (hside : side ≠ .eq) {a b c : Value}
    (ha : a ∈ values) (hb : b ∈ values) (hc : c ∈ values) (hab : a.compare b ≠ side.swap)
    (hbc : b.compare c = side) : a.compare c = side := by
  have htrans : TransCmp fun x y : values => x.1.compare y.1 := h.transCmp
  cases side with
  | eq => exact absurd rfl hside
  | lt =>
    exact htrans.lt_of_isLE_of_lt (a := ⟨a, ha⟩) (b := ⟨b, hb⟩) (c := ⟨c, hc⟩)
      (Ordering.isLE_iff_ne_gt.mpr hab) hbc
  | gt =>
    exact @TransCmp.gt_of_isGE_of_gt _ _ htrans ⟨a, ha⟩ ⟨b, hb⟩ ⟨c, hc⟩
      (Ordering.isGE_iff_ne_lt.mpr hab) hbc

theorem compare_self (h : Value.PreordersOn values) {a : Value} (ha : a ∈ values) :
    a.compare a = .eq := by
  have hself : a.compare a = (a.compare a).swap := h.swap a ha a ha
  cases hcompare : a.compare a <;> rw [hcompare] at hself <;> first | rfl | cases hself

/-- A value that is not on the side of the search is passed over. -/
theorem Best.pass (h : Best side backwards sought seen best) (hv : ¬Stands side sought v) :
    Best side backwards sought (seen ++ [(v, i)]) best := by
  have hold : ∀ x ∈ seen ++ [(v, i)], Stands side sought x.1 → x ∈ seen := by
    intro x hx hstands
    rcases List.mem_append.mp hx with hx | hx
    · exact hx
    · obtain rfl := List.mem_singleton.mp hx
      exact absurd hstands hv
  cases best with
  | none => exact fun x hx hstands => h x (hold x hx hstands) hstands
  | some b =>
    exact ⟨List.mem_append_left _ h.1, h.2.1, fun x hx hstands =>
      h.2.2 x (hold x hx hstands) hstands⟩

/-- A nearer value is kept. -/
theorem Best.replace (h : Best side backwards sought seen best) (hpre : Value.PreordersOn values)
    (hside : side ≠ .eq) (hin : ∀ x ∈ seen, sameKind sought x.1 = true → x.1 ∈ values)
    (hv : v ∈ values) (hstands : Stands side sought v) (hnearer : isNearer side best v = true) :
    Best side backwards sought (seen ++ [(v, i)]) (some (v, i)) := by
  have hbeyond : ∀ x ∈ seen, Stands side sought x.1 → x.1.compare v = side := by
    intro x hx hx'
    cases best with
    | none => exact absurd hx' (h x hx)
    | some b =>
      have hb : b.1 ∈ values := hin b h.1 h.2.1.1
      have hvb : v.compare b.1 = side.swap := beq_iff_eq.mp hnearer
      have hbv : b.1.compare v = side := by
        rw [hpre.swap b.1 hb v hv, hvb, Ordering.swap_swap]
      exact eq_side_of_ne_swap hpre hside (hin x hx hx'.1) hb hv (h.2.2 x hx hx').1 hbv
  refine ⟨List.mem_append_right _ List.mem_cons_self, hstands, fun x hx hx' => ?_⟩
  rcases List.mem_append.mp hx with hx | hx
  · rw [hbeyond x hx hx']
    cases side with
    | eq => exact absurd rfl hside
    | lt => exact ⟨nofun, nofun⟩
    | gt => exact ⟨nofun, nofun⟩
  · obtain rfl := List.mem_singleton.mp hx
    rw [compare_self hpre hv]
    refine ⟨fun hswap => hside ?_, fun _ => Ahead.irrefl i⟩
    exact Ordering.swap_eq_eq.mp hswap.symm

/-- A value that is not nearer comes after the one that is kept. -/
theorem Best.keep {b : Value × Nat} (h : Best side backwards sought seen (some b))
    (hahead : ∀ x ∈ seen, Ahead backwards x.2 i) (hfar : isNearer side (some b) v = false) :
    Best side backwards sought (seen ++ [(v, i)]) (some b) := by
  refine ⟨List.mem_append_left _ h.1, h.2.1, fun x hx hx' => ?_⟩
  rcases List.mem_append.mp hx with hx | hx
  · exact h.2.2 x hx hx'
  · obtain rfl := List.mem_singleton.mp hx
    exact ⟨beq_eq_false_iff_ne.mp hfar, fun _ => (hahead b h.1).asymm⟩

/-- **The best value so far is kept up**, whether the next one is nearer or not. -/
theorem Best.step (h : Best side backwards sought seen best) (hpre : Value.PreordersOn values)
    (hside : side ≠ .eq) (hin : ∀ x ∈ seen, sameKind sought x.1 = true → x.1 ∈ values)
    (hv : v ∈ values) (hahead : ∀ x ∈ seen, Ahead backwards x.2 i)
    (hkind : sameKind sought v = true) :
    Best side backwards sought (seen ++ [(v, i)])
      (if v.compare sought = side && isNearer side best v then some (v, i) else best) := by
  by_cases hcompare : v.compare sought = side
  · rw [decide_eq_true hcompare, Bool.true_and]
    cases hnearer : isNearer side best v with
    | true => exact h.replace hpre hside hin hv ⟨hkind, hcompare⟩ hnearer
    | false =>
      cases best with
      | none => cases hnearer
      | some b => exact h.keep hahead hnearer
  · rw [decide_eq_false hcompare, Bool.false_and, if_neg Bool.false_ne_true]
    exact h.pass fun hstands => hcompare hstands.2

/-- **A search finds the first equal value**, and if there is none, the best of all values, those
    gone by before included. -/
theorem findNearest?_cases (hpre : Value.PreordersOn values) (hside : side ≠ .eq)
    (hin : ∀ x ∈ seen ++ entries, sameKind sought x.1 = true → x.1 ∈ values)
    (hahead : (seen ++ entries).Pairwise fun x y => Ahead backwards x.2 y.2)
    (h : Best side backwards sought seen best) :
    (∃ e ∈ entries, Stands .eq sought e.1 ∧
        (∀ x ∈ entries, Stands .eq sought x.1 → ¬Ahead backwards x.2 e.2) ∧
        findNearest? side sought best entries = some e.2) ∨
      (∀ x ∈ entries, ¬Stands .eq sought x.1) ∧ ∃ b,
        Best side backwards sought (seen ++ entries) b ∧
        findNearest? side sought best entries = b.map (·.2) := by
  induction entries generalizing seen best with
  | nil => exact .inr ⟨nofun, best, by rwa [List.append_nil], rfl⟩
  | cons e entries ih =>
    obtain ⟨v, i⟩ := e
    obtain ⟨-, hentries, hseen⟩ := List.pairwise_append.mp hahead
    have hsplit : seen ++ (v, i) :: entries = (seen ++ [(v, i)]) ++ entries := by simp
    by_cases hequal : Stands .eq sought v
    · refine .inl ⟨(v, i), List.mem_cons_self, hequal, fun x hx _ => ?_, findNearest?_equal hequal⟩
      rcases List.mem_cons.mp hx with rfl | hx
      · exact Ahead.irrefl i
      · exact (List.rel_of_pairwise_cons hentries hx).asymm
    · obtain ⟨best', hrun, hbest⟩ : ∃ best',
          findNearest? side sought best ((v, i) :: entries) =
            findNearest? side sought best' entries ∧
          Best side backwards sought (seen ++ [(v, i)]) best' := by
        cases hkind : sameKind sought v with
        | false =>
          refine ⟨best, findNearest?_skip hkind, h.pass fun hstands => ?_⟩
          exact absurd (hkind.symm.trans hstands.1) Bool.false_ne_true
        | true =>
          have hv := hin (v, i) (List.mem_append_right _ List.mem_cons_self) hkind
          exact ⟨_, findNearest?_unequal hkind fun heq => hequal ⟨hkind, heq⟩,
            h.step hpre hside (fun x hx => hin x (List.mem_append_left _ hx)) hv
              (fun x hx => hseen x hx _ List.mem_cons_self) hkind⟩
      rw [hrun, hsplit]
      refine (ih (hsplit ▸ hin) (hsplit ▸ hahead) hbest).imp ?_ ?_
      · rintro ⟨e, he, hstands, hfirst, hfound⟩
        refine ⟨e, List.mem_cons_of_mem _ he, hstands, ?_, hfound⟩
        exact List.forall_mem_cons.mpr ⟨fun hv => absurd hv hequal, hfirst⟩
      · rintro ⟨hnone, hbest⟩
        exact ⟨List.forall_mem_cons.mpr ⟨hequal, hnone⟩, hbest⟩

end Pass

/-! ## 3. Places of values -/

section Places

variable {mode : SearchMode} {side : Ordering} {backwards : Bool} {sought : Value}
  {values : List Value} {i j : Nat}

theorem side_ne_eq (h : mode.side? = some side) : side ≠ .eq := by
  cases mode <;> cases h <;> exact nofun

theorem find?_of_side (h : mode.side? = some side) (entries : List (Value × Nat)) :
    mode.find? sought entries = findNearest? side sought none entries := by
  cases mode <;> cases h <;> rfl

/-- What is neither equal to the sought value nor on one side of it is on the other side. -/
theorem eq_swap_iff {o : Ordering} (hside : side ≠ .eq) : o = side.swap ↔ o ≠ .eq ∧ o ≠ side := by
  cases side <;> cases o <;> simp at hside ⊢

theorem FirstEqual.unique (hi : FirstEqual backwards sought values i)
    (hj : FirstEqual backwards sought values j) : i = j := by
  obtain ⟨v, hv, hstandsv⟩ := hi.entry
  obtain ⟨w, hw, hstandsw⟩ := hj.entry
  rcases Ahead.total backwards i j with h | h | h
  · exact absurd h (hj.first i v hv hstandsv)
  · exact h
  · exact absurd h (hi.first j w hw hstandsw)

/-- Two values that are nearest on one side are equal. -/
theorem FirstNearest.compare_eq {v w : Value}
    (hpre : Value.PreordersOn {v | v ∈ values ∧ sameKind sought v = true}) (hside : side ≠ .eq)
    (hi : FirstNearest side backwards sought values i v)
    (hj : FirstNearest side backwards sought values j w) : w.compare v = .eq := by
  have hv := List.mem_of_getElem? hi.entry
  have hw := List.mem_of_getElem? hj.entry
  have hwv := hi.nearest w hw hj.beside
  have hvw := hj.nearest v hv hi.beside
  rw [hpre.swap v ⟨hv, hi.beside.1⟩ w ⟨hw, hj.beside.1⟩] at hvw
  revert hwv hvw
  cases side <;> cases w.compare v <;> simp at hside ⊢

theorem FirstNearest.unique {v w : Value}
    (hpre : Value.PreordersOn {v | v ∈ values ∧ sameKind sought v = true}) (hside : side ≠ .eq)
    (hi : FirstNearest side backwards sought values i v)
    (hj : FirstNearest side backwards sought values j w) : i = j := by
  rcases Ahead.total backwards i j with h | h | h
  · exact absurd h (hj.first i v hi.entry hi.beside (hj.compare_eq hpre hside hi))
  · exact h
  · exact absurd h (hi.first j w hj.entry hj.beside (hi.compare_eq hpre hside hj))

/-- There is one place at most that a search should find. -/
theorem Sought.unique (hpre : Value.PreordersOn {v | v ∈ values ∧ sameKind sought v = true})
    (hside : side ≠ .eq) (hi : Sought side backwards sought values i)
    (hj : Sought side backwards sought values j) : i = j := by
  have hnot : ∀ {i j v}, FirstEqual backwards sought values i →
      ¬FirstNearest side backwards sought values j v := fun hi hj => by
    obtain ⟨v, hv, hstands⟩ := hi.entry
    exact hj.unequal v (List.mem_of_getElem? hv) hstands
  rcases hi with hi | ⟨v, hi⟩
  · rcases hj with hj | ⟨w, hj⟩
    · exact hi.unique hj
    · exact absurd hj (hnot hi)
  · rcases hj with hj | ⟨w, hj⟩
    · exact absurd hi (hnot hj)
    · exact hi.unique hpre hside hj

/-- Where there is such a place, not all values of the kind of the sought one are beyond it. -/
theorem Sought.not_beyond (hside : side ≠ .eq) (h : Sought side backwards sought values i) :
    ¬∀ w ∈ values, sameKind sought w = true → w.compare sought = side.swap := by
  intro hbeyond
  rcases h with h | ⟨v, h⟩
  · obtain ⟨v, hv, hkind, heq⟩ := h.entry
    exact ((eq_swap_iff hside).mp (hbeyond v (List.mem_of_getElem? hv) hkind)).1 heq
  · obtain ⟨hkind, hbeside⟩ := h.beside
    exact ((eq_swap_iff hside).mp (hbeyond v (List.mem_of_getElem? h.entry) hkind)).2 hbeside

/-- The search finds the place that it should find, or there is none and every value of the kind of
    the sought one is beyond it on the other side. -/
theorem findNearest?_place (backwards : Bool)
    (hpre : Value.PreordersOn {v | v ∈ values ∧ sameKind sought v = true}) (hside : side ≠ .eq) :
    (∃ i, Sought side backwards sought values i ∧
        findNearest? side sought none (inDirection backwards values) = some i) ∨
      (∀ w ∈ values, sameKind sought w = true → w.compare sought = side.swap) ∧
        findNearest? side sought none (inDirection backwards values) = none := by
  have hentry : ∀ w ∈ values, ∃ j, (w, j) ∈ inDirection backwards values := fun w hw => by
    obtain ⟨j, hj⟩ := List.getElem?_of_mem hw
    exact ⟨j, mem_inDirection.mpr hj⟩
  have hin : ∀ x ∈ [] ++ inDirection backwards values, sameKind sought x.1 = true →
      x.1 ∈ {v | v ∈ values ∧ sameKind sought v = true} := fun x hx hkind =>
    ⟨List.mem_of_getElem? (mem_inDirection.mp hx), hkind⟩
  have hstart : Best side backwards sought [] none := nofun
  rcases findNearest?_cases hpre hside hin (pairwise_inDirection backwards values) hstart with
    ⟨⟨v, i⟩, he, hstands, hfirst, hfound⟩ | ⟨hunequal, best, hbest, hfound⟩
  · refine .inl ⟨i, .inl ⟨⟨v, mem_inDirection.mp he, hstands⟩, fun j w hw hw' => ?_⟩, hfound⟩
    exact hfirst (w, j) (mem_inDirection.mpr hw) hw'
  · have hnone : ∀ w ∈ values, ¬Stands .eq sought w := fun w hw hstands => by
      obtain ⟨j, hj⟩ := hentry w hw
      exact hunequal _ hj hstands
    cases best with
    | none =>
      refine .inr ⟨fun w hw hkind => ?_, hfound⟩
      obtain ⟨j, hj⟩ := hentry w hw
      exact (eq_swap_iff hside).mpr ⟨fun h => hnone w hw ⟨hkind, h⟩, fun h => hbest _ hj ⟨hkind, h⟩⟩
    | some b =>
      obtain ⟨v, i⟩ := b
      obtain ⟨hmem, hstands, hall⟩ := hbest
      refine .inl ⟨i, .inr ⟨v, mem_inDirection.mp hmem, hstands, hnone, fun w hw hw' => ?_,
        fun j w hw hw' => ?_⟩, hfound⟩
      · obtain ⟨j, hj⟩ := hentry w hw
        exact (hall _ hj hw').1
      · exact (hall (w, j) (mem_inDirection.mpr hw) hw').2

/-- **Which place a search for the nearest value finds**, and when it finds none. -/
theorem find?_exact (backwards : Bool) (hmode : mode.side? = some side)
    (hpre : Value.PreordersOn {v | v ∈ values ∧ sameKind sought v = true}) :
    (∀ i, mode.find? sought (inDirection backwards values) = some i ↔
      Sought side backwards sought values i) ∧
    (mode.find? sought (inDirection backwards values) = none ↔
      ∀ w ∈ values, sameKind sought w = true → w.compare sought = side.swap) := by
  have hside := side_ne_eq hmode
  rw [find?_of_side hmode]
  rcases findNearest?_place backwards hpre hside with
    ⟨i, hi, hfound⟩ | ⟨hbeyond, hfound⟩
  · rw [hfound]
    refine ⟨fun j => ⟨fun hj => ?_, fun hj => ?_⟩, nofun, fun h => absurd h (hi.not_beyond hside)⟩
    · obtain rfl := Option.some.inj hj
      exact hi
    · rw [hi.unique hpre hside hj]
  · rw [hfound]
    exact ⟨fun j => ⟨nofun, fun hj => absurd hbeyond (hj.not_beyond hside)⟩, fun _ => hbeyond,
      fun _ => rfl⟩

end Places

/-! ## 4. Parallel ranges -/

/-- Whether a rectangle is a row, along which another one runs. -/
def RunsAcross (view : RangeView) : Prop := view.rowCount = 1 ∧ 1 < view.colCount

instance (view : RangeView) : Decidable (RunsAcross view) :=
  inferInstanceAs (Decidable (_ ∧ _))

/-- How many values the second rectangle has beside those of the first one. -/
def extentBeside (searched returned : RangeView) : Nat :=
  if RunsAcross searched then returned.colCount else returned.rowCount

/-- The value of the second rectangle beside a place of the first one. -/
def valueBeside (searched returned : RangeView) (place : Nat) : Value :=
  if RunsAcross searched then returned.value 0 place else returned.value place 0

section Lookups

variable {args : List Arg} {ctx : Context} {sought : Value} {searched returned : RangeView}
  {keys : List Value} {mode : SearchMode} {backwards : Bool} {x y : Float}

/-- What a lookup makes of the place that its search finds. -/
theorem parallelLookup_eq (ctx : Context) (hsought : soughtAt args = .ok sought)
    (hsearched : rangeAt args 1 = .ok searched) (hreturned : rangeAt args 2 = .ok returned)
    (hkeys : line? searched = some keys) (hx : numberAtOr args 4 0 = .ok x)
    (hmode : SearchMode.ofCode? (toWord x) = some mode) (hy : numberAtOr args 5 1 = .ok y)
    (hdirection : runsBackwards? (toWord y) = some backwards)
    (hextent : extentBeside searched returned = keys.length) :
    parallelLookup args ctx =
      match mode.find? sought (inDirection backwards keys) with
      | none => if 3 < args.length then .ok (scalarAt args 3) else .refuse .notAvailable
      | some i => .ok (valueBeside searched returned i) := by
  unfold parallelLookup
  rw [hsought, hsearched, hreturned]
  show (Outcome.orRefuse .value (line? searched) >>= _) = _
  rw [hkeys]
  show (numberAtOr args 4 0 >>= _) = _
  rw [hx]
  show (Outcome.orRefuse .value (SearchMode.ofCode? (toWord x)) >>= _) = _
  rw [hmode]
  show (numberAtOr args 5 1 >>= _) = _
  rw [hy]
  show (Outcome.orRefuse .value (runsBackwards? (toWord y)) >>= _) = _
  rw [hdirection]
  show (match mode.find? sought (inDirection backwards keys) with
    | none => _
    | some i => _) = _
  cases mode.find? sought (inDirection backwards keys) with
  | none => rfl
  | some i =>
    show (if RunsAcross searched then _ else _) =
      (Except.ok (if RunsAcross searched then _ else _) : Outcome Value)
    unfold extentBeside at hextent
    by_cases hacross : RunsAcross searched
    · rw [if_pos hacross] at hextent
      rw [if_pos hacross, if_pos hacross, if_pos hextent]
      rfl
    · rw [if_neg hacross] at hextent
      rw [if_neg hacross, if_neg hacross, if_pos hextent]
      rfl

end Lookups

/-- **A search for the nearest value is right on any values.** The place that is found is the first
    one with an equal value of the kind of the sought one, in the direction of the search; without
    such a value it is the first one of those nearest to the sought value on the side of the search;
    and none is found exactly if all values of the kind are on the other side. So a lookup along a
    line gives what stands beside this place, or else the value for nothing found. -/
theorem nearestSearch_optimal :
    (∀ (mode : SearchMode) (side : Ordering) (backwards : Bool) (sought : Value)
        (values : List Value), mode.side? = some side →
      Value.PreordersOn {v | v ∈ values ∧ sameKind sought v = true} →
      (∀ i, mode.find? sought (inDirection backwards values) = some i ↔
        Sought side backwards sought values i) ∧
      (mode.find? sought (inDirection backwards values) = none ↔
        ∀ w ∈ values, sameKind sought w = true → w.compare sought = side.swap)) ∧
    ∀ (args : List Arg) (ctx : Context) (sought : Value) (searched returned : RangeView)
        (keys : List Value) (x y : Float) (mode : SearchMode) (side : Ordering) (backwards : Bool),
      soughtAt args = .ok sought → rangeAt args 1 = .ok searched → rangeAt args 2 = .ok returned →
      line? searched = some keys → extentBeside searched returned = keys.length →
      numberAtOr args 4 0 = .ok x → SearchMode.ofCode? (toWord x) = some mode →
      mode.side? = some side → numberAtOr args 5 1 = .ok y →
      runsBackwards? (toWord y) = some backwards →
      Value.PreordersOn {v | v ∈ keys ∧ sameKind sought v = true} →
      (∃ i, Sought side backwards sought keys i ∧
          parallelLookup args ctx = .ok (valueBeside searched returned i)) ∨
        (∀ w ∈ keys, sameKind sought w = true → w.compare sought = side.swap) ∧
          parallelLookup args ctx =
            if 3 < args.length then .ok (scalarAt args 3) else .refuse .notAvailable := by
  refine ⟨fun mode side backwards sought values hmode hpre => find?_exact backwards hmode hpre, ?_⟩
  intro args ctx sought searched returned keys x y mode side backwards hsought hsearched hreturned
    hkeys hextent hx hmode hside hy hdirection hpre
  have hrun := parallelLookup_eq ctx hsought hsearched hreturned hkeys hx hmode hy
    hdirection hextent
  obtain ⟨hfound, hnone⟩ := find?_exact backwards hside hpre
  cases hfind : mode.find? sought (inDirection backwards keys) with
  | none =>
    rw [hfind] at hrun
    exact .inr ⟨hnone.mp hfind, hrun⟩
  | some i =>
    rw [hfind] at hrun
    exact .inl ⟨i, (hfound i).mp hfind, hrun⟩

/-- A column with unsorted numbers among others, two of them the greatest ones below five, and
    texts beside it. -/
def unsortedColumn (left right : Nat) : RangeView :=
  let store := ((((((({} : CellStore).put 0 0 { value := .number 1 }).put 1 0
    { value := .number 4 }).put 2 0 { value := .text "5" }).put 3 0 { value := .number 7 }).put 4 0
    { value := .number 4 }).put 1 1 { value := .text "first" }).put 4 1 { value := .text "last" }
  ⟨{ Worksheet.create "Sheet1" 20 10 with store }, .between 0 left 4 right⟩

/-- The greatest number below five is found, at its first place forwards and at its last place
    backwards, and a lookup backwards gives the text beside it there. -/
theorem nearestSearch_optimal_unsorted :
    Sought .lt false (.number 5) (unsortedColumn 0 0).values 1 ∧
    Sought .lt true (.number 5) (unsortedColumn 0 0).values 4 ∧
    parallelLookup [.value (.number 5), .range (unsortedColumn 0 0), .range (unsortedColumn 1 1),
      .value (.text "none"), .value (.number (-1)), .value (.number (-1))] emptyContext =
      .ok (.text "last") := by
  have hvalues : (unsortedColumn 0 0).values =
      [.number 1, .number 4, .text "5", .number 7, .number 4] := by
    decide +kernel
  have hline : line? (unsortedColumn 0 0) = some (unsortedColumn 0 0).values := by decide +kernel
  have hpre : Value.PreordersOn
      {v | v ∈ (unsortedColumn 0 0).values ∧ sameKind (.number 5) v = true} := by
    have hnumbers : ∀ v ∈ (unsortedColumn 0 0).values, sameKind (.number 5) v = true →
        v.isNumeric = true ∧ v.isNaN = false := by
      rw [hvalues]
      decide +kernel
    refine Value.preordersOn_of_places Value.place (fun _ => Value.place_of_not_isNumeric) ?_ ?_
    · exact fun v hv => Value.isBlank_of_isNumeric (hnumbers v hv.1 hv.2).1
    · exact fun a ha b hb ha' hb' => Value.compare_of_numbers ha' hb' (hnumbers a ha.1 ha.2).2
        (hnumbers b hb.1 hb.2).2
  have hforwards := ((nearestSearch_optimal.1 .nearestBelow .lt false _ _ rfl hpre).1 1).mp
    (by rw [hvalues]; decide +kernel)
  have hbackwards := ((nearestSearch_optimal.1 .nearestBelow .lt true _ _ rfl hpre).1 4).mp
    (by rw [hvalues]; decide +kernel)
  refine ⟨hforwards, hbackwards, ?_⟩
  rcases nearestSearch_optimal.2
    [.value (.number 5), .range (unsortedColumn 0 0), .range (unsortedColumn 1 1),
      .value (.text "none"), .value (.number (-1)), .value (.number (-1))] emptyContext (.number 5)
    (unsortedColumn 0 0) (unsortedColumn 1 1) _ (-1) (-1) .nearestBelow .lt true rfl rfl rfl hline
    (by decide +kernel) rfl (by decide +kernel) rfl rfl (by decide +kernel) hpre with
    ⟨i, hi, hrun⟩ | ⟨hbeyond, -⟩
  · obtain rfl := hi.unique hpre (by decide) hbackwards
    exact hrun.trans (by decide +kernel)
  · exact absurd hbeyond (hbackwards.not_beyond (by decide))

end Gridcalc.Builtin
