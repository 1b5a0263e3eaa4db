import Gridcalc.Dependency.Closure
import Gridcalc.Proofs.Dependency.Edges
import Mathlib.Order.Bounds.Defs

/-!
# What is downstream of a change

* `EdgeMap.mem_closeOver_empty`: the collection finds exactly what can be reached along the edges;
* `Graph.Reads`, `Graph.OnCycle`: a cell reads another one, and a cell reads itself through others;
* `Graph.dirtyClosure_isLeast`: the dirty closure of some cells is the least set with these cells
  that is closed under readers, in any graph;
* `Graph.mem_dirtyClosure`: where both directions of the graph say the same, it consists of the
  cells that read one of the seeds, directly or through others.
-/

namespace Gridcalc

open Relation

/-! ## 1. Following the edges of a map -/

namespace EdgeMap

variable {m : EdgeMap}

/-- An edge of a map. -/
def Edge (m : EdgeMap) (a b : CellKey) : Prop := b ∈ targets m a

/-- Nothing is found but what was there or can be reached. -/
theorem closeOver_sound {seen : CellSet} {stack : List CellKey} {c : CellKey}
    (hc : c ∈ closeOver m seen stack) : c ∈ seen ∨ ∃ s ∈ stack, ReflTransGen m.Edge s c := by
  fun_induction closeOver m seen stack with
  | case1 seen => exact .inl hc
  | case2 seen cell stack _ ih =>
    refine (ih hc).imp_right fun ⟨s, hs, hr⟩ => ⟨s, List.mem_cons_of_mem _ hs, hr⟩
  | case3 seen cell stack _ ih =>
    rcases ih hc with h | ⟨s, hs, hr⟩
    · rw [Std.ExtTreeSet.mem_insert, Std.compare_eq_iff_eq] at h
      rcases h with rfl | h
      · exact .inr ⟨cell, List.mem_cons_self, .refl⟩
      · exact .inl h
    · rcases List.mem_append.mp hs with hs | hs
      · have hedge : m.Edge cell s := Std.ExtTreeSet.mem_toList.mp hs
        exact .inr ⟨cell, List.mem_cons_self, hr.head hedge⟩
      · exact .inr ⟨s, List.mem_cons_of_mem _ hs, hr⟩

theorem seen_subset_closeOver {seen : CellSet} {stack : List CellKey} {c : CellKey}
    (hc : c ∈ seen) : c ∈ closeOver m seen stack := by
  fun_induction closeOver m seen stack with
  | case1 seen => exact hc
  | case2 seen cell stack _ ih => exact ih hc
  | case3 seen cell stack _ ih =>
    exact ih (Std.ExtTreeSet.mem_insert.mpr (.inr hc))

theorem stack_subset_closeOver {seen : CellSet} {stack : List CellKey} {c : CellKey}
    (hc : c ∈ stack) : c ∈ closeOver m seen stack := by
  fun_induction closeOver m seen stack with
  | case1 seen => cases hc
  | case2 seen cell stack hs ih =>
    rcases List.mem_cons.mp hc with rfl | hc
    · exact seen_subset_closeOver hs
    · exact ih hc
  | case3 seen cell stack hs ih =>
    rcases List.mem_cons.mp hc with rfl | hc
    · exact seen_subset_closeOver Std.ExtTreeSet.mem_insert_self
    · exact ih (List.mem_append_right _ hc)

/-- What is found is closed under edges, provided that the targets of the cells seen so far are
    seen or waiting. -/
theorem closeOver_closed {seen : CellSet} {stack : List CellKey}
    (hseen : ∀ a ∈ seen, ∀ b, m.Edge a b → b ∈ seen ∨ b ∈ stack) {a b : CellKey}
    (ha : a ∈ closeOver m seen stack) (hab : m.Edge a b) : b ∈ closeOver m seen stack := by
  fun_induction closeOver m seen stack with
  | case1 seen => exact (hseen a ha b hab).resolve_right List.not_mem_nil
  | case2 seen cell stack hs ih =>
    refine ih (fun x hx y hxy => ?_) ha
    rcases hseen x hx y hxy with h | h
    · exact .inl h
    · rcases List.mem_cons.mp h with rfl | h
      · exact .inl hs
      · exact .inr h
  | case3 seen cell stack hs ih =>
    refine ih (fun x hx y hxy => ?_) ha
    rw [Std.ExtTreeSet.mem_insert, Std.compare_eq_iff_eq] at hx
    rcases hx with rfl | hx
    · exact .inr (List.mem_append_left _ (Std.ExtTreeSet.mem_toList.mpr hxy))
    · rcases hseen x hx y hxy with h | h
      · exact .inl (Std.ExtTreeSet.mem_insert.mpr (.inr h))
      · rcases List.mem_cons.mp h with rfl | h
        · exact .inl Std.ExtTreeSet.mem_insert_self
        · exact .inr (List.mem_append_right _ h)

/-- **From nothing, the collection finds exactly what can be reached.** -/
theorem mem_closeOver_empty {stack : List CellKey} {c : CellKey} :
    c ∈ closeOver m ∅ stack ↔ ∃ s ∈ stack, ReflTransGen m.Edge s c := by
  constructor
  · intro hc
    exact (closeOver_sound hc).resolve_left Std.ExtTreeSet.not_mem_empty
  · intro ⟨s, hs, hr⟩
    induction hr with
    | refl => exact stack_subset_closeOver hs
    | tail _ hbc ih =>
      exact closeOver_closed (fun a ha => absurd ha Std.ExtTreeSet.not_mem_empty) ih hbc

end EdgeMap

/-! ## 2. The least closed set -/

namespace Graph

variable {g : Graph} {a b c : CellKey}

/-- The cell `b` is listed among the readers of the cell `a`. -/
def Feeds (g : Graph) (a b : CellKey) : Prop := b ∈ g.dependents a

/-- Some cells with all their readers, and the readers of these. -/
def ClosedOver (g : Graph) (seeds : List CellKey) (cells : Set CellKey) : Prop :=
  (∀ s ∈ seeds, s ∈ cells) ∧ ∀ a ∈ cells, ∀ b, g.Feeds a b → b ∈ cells

/-- What can be reached from the seeds is in every set that is closed over them. -/
theorem ClosedOver.mem_of_feeds {seeds : List CellKey} {cells : Set CellKey}
    (h : g.ClosedOver seeds cells) {s : CellKey} (hs : s ∈ seeds) (hr : ReflTransGen g.Feeds s c) :
    c ∈ cells := by
  induction hr with
  | refl => exact h.1 s hs
  | tail _ hbc ih => exact h.2 _ ih _ hbc

/-- **The dirty closure of some cells**, repeated or not, is what can be reached from them by going
    from a cell to its readers, any number of times. It is the least set with these cells that is
    closed under readers, whether or not there are circles. -/
theorem dirtyClosure_isLeast (g : Graph) (seeds : List CellKey) :
    (∀ c, c ∈ g.dirtyClosure seeds ↔ ∃ s ∈ seeds, ReflTransGen g.Feeds s c) ∧
    IsLeast {cells | g.ClosedOver seeds cells} {c | c ∈ g.dirtyClosure seeds} := by
  have hmem : ∀ c, c ∈ g.dirtyClosure seeds ↔ ∃ s ∈ seeds, ReflTransGen g.Feeds s c :=
    fun _ => EdgeMap.mem_closeOver_empty
  refine ⟨hmem, ⟨fun s hs => ?_, fun a ha b hab => ?_⟩, fun cells hcells c hc => ?_⟩
  · exact (hmem s).mpr ⟨s, hs, .refl⟩
  · obtain ⟨s, hs, hr⟩ := (hmem a).mp ha
    exact (hmem b).mpr ⟨s, hs, hr.tail hab⟩
  · obtain ⟨s, hs, hr⟩ := (hmem c).mp hc
    exact hcells.mem_of_feeds hs hr

/-! ## 3. Reading -/

/-- The cell `a` reads the cell `b`. -/
def Reads (g : Graph) (a b : CellKey) : Prop := b ∈ g.precedents a

/-- The cell reads itself, directly or through others. -/
def OnCycle (g : Graph) (c : CellKey) : Prop := TransGen g.Reads c c

/-- **The dirty closure**: the cells that read one of the seeds, directly or through others. -/
theorem mem_dirtyClosure (hm : g.Mirrored) {seeds : List CellKey} :
    c ∈ g.dirtyClosure seeds ↔ ∃ s ∈ seeds, ReflTransGen g.Reads c s := by
  have hedge : EdgeMap.Edge g.readers = Function.swap g.Reads := by
    funext a b
    exact propext (hm a b).symm
  rw [dirtyClosure, EdgeMap.mem_closeOver_empty, hedge]
  simp only [reflTransGen_swap]

/-- What reads a dirty cell is dirty. -/
theorem mem_dirtyClosure_of_reads (hm : g.Mirrored) {seeds : List CellKey}
    (hb : b ∈ g.dirtyClosure seeds) (hab : ReflTransGen g.Reads a b) :
    a ∈ g.dirtyClosure seeds := by
  obtain ⟨s, hs, hr⟩ := (mem_dirtyClosure hm).mp hb
  exact (mem_dirtyClosure hm).mpr ⟨s, hs, hab.trans hr⟩

theorem mem_dirtyClosure_of_mem (hm : g.Mirrored) {seeds : List CellKey} (hc : c ∈ seeds) :
    c ∈ g.dirtyClosure seeds :=
  (mem_dirtyClosure hm).mpr ⟨c, hc, .refl⟩

end Graph

end Gridcalc
