import Gridcalc.Dependency.Schedule
import Mathlib.Logic.Relation

/-!
# The order in which a walk leaves cells

`finishOrder` walks along the edges of a graph inside a set of cells and lists the cells as it
leaves them, the last one first. This file says what that list knows about the graph:

* `WalkInv` is the invariant of the walk, in terms of the steps that are still to be done;
* `Late`: of the cells that can be reached from a cell, those that are not listed behind it belong
  to the circles of a cell that is listed in front of it;
* `finishOrder_spec`: the list holds every cell of the set once, and is late.
-/

namespace Gridcalc

open Relation

/-! ## 1. Pairs in a list, and sets -/

section Pairs

variable {α : Type} {s t x : α} {l l' : List α}

theorem pair_sublist_cons : [s, t].Sublist (x :: l) ↔ (x = s ∧ t ∈ l) ∨ [s, t].Sublist l := by
  rw [List.sublist_cons_iff, or_comm]
  refine or_congr_left ⟨?_, ?_⟩
  · intro ⟨r, hr, hrl⟩
    obtain ⟨rfl, rfl⟩ := List.cons.inj hr
    exact ⟨rfl, List.singleton_sublist.mp hrl⟩
  · intro h
    obtain ⟨rfl, ht⟩ := h
    exact ⟨[t], rfl, List.singleton_sublist.mpr ht⟩

theorem pair_sublist_append :
    [s, t].Sublist (l ++ l') ↔
      [s, t].Sublist l ∨ (s ∈ l ∧ t ∈ l') ∨ [s, t].Sublist l' := by
  induction l with
  | nil => simp
  | cons y l ih =>
    rw [List.cons_append, pair_sublist_cons, ih, pair_sublist_cons, List.mem_append,
      List.mem_cons]
    constructor
    · intro h
      rcases h with ⟨rfl, h | h⟩ | h | ⟨h, h'⟩ | h
      · exact .inl (.inl ⟨rfl, h⟩)
      · exact .inr (.inl ⟨.inl rfl, h⟩)
      · exact .inl (.inr h)
      · exact .inr (.inl ⟨.inr h, h'⟩)
      · exact .inr (.inr h)
    · intro h
      rcases h with (⟨rfl, h⟩ | h) | ⟨rfl | h, h'⟩ | h
      · exact .inl ⟨rfl, .inl h⟩
      · exact .inr (.inl h)
      · exact .inl ⟨rfl, .inr h'⟩
      · exact .inr (.inr (.inl ⟨h, h'⟩))
      · exact .inr (.inr (.inr h))

theorem mem_of_pair_sublist (h : [s, t].Sublist l) : s ∈ l ∧ t ∈ l :=
  ⟨h.subset List.mem_cons_self, h.subset (List.mem_cons_of_mem _ List.mem_cons_self)⟩

end Pairs

theorem mem_erase_iff {s : CellSet} {a c : CellKey} : c ∈ s.erase a ↔ c ≠ a ∧ c ∈ s := by
  rw [Std.ExtTreeSet.mem_erase]
  simp only [ne_eq, Std.compare_eq_iff_eq]
  exact and_congr_left fun _ => not_congr eq_comm

/-! ## 2. The invariant -/

section Walk

variable {next : CellKey → List CellKey} {cells unvisited : CellSet} {left : List CellKey}
  {steps : List WalkStep}

/-- An edge to a cell of the set. -/
def EdgeInto (next : CellKey → List CellKey) (cells : CellSet) (a b : CellKey) : Prop :=
  b ∈ next a ∧ b ∈ cells

/-- Two cells reach each other. -/
def Mutual (edge : CellKey → CellKey → Prop) (a b : CellKey) : Prop :=
  ReflTransGen edge a b ∧ ReflTransGen edge b a

theorem Mutual.trans {edge : CellKey → CellKey → Prop} {a b c : CellKey} (h : Mutual edge a b)
    (h' : Mutual edge b c) : Mutual edge a c := ⟨h.1.trans h'.1, h'.2.trans h.2⟩

/-- Whatever a listed cell reaches is listed behind it, or a cell of `front` in front of it shares
    a circle with it. -/
def Late (edge : CellKey → CellKey → Prop) (front : CellKey → Prop) (left : List CellKey) : Prop :=
  ∀ A x B, left = A ++ x :: B → ∀ w, ReflTransGen edge x w →
    w ∈ x :: B ∨ ∃ y, (y ∈ A ∨ front y) ∧ Mutual edge x y

/-- What holds all along a walk through `cells`: `left` are the cells it has left, `unvisited`
    those it has not entered, and the cells to be left in `steps` are those in between. -/
structure WalkInv (next : CellKey → List CellKey) (cells unvisited : CellSet)
    (left : List CellKey) (steps : List WalkStep) : Prop where
  visited : ∀ c ∈ cells, c ∈ unvisited ∨ c ∈ left ∨ .leave c ∈ steps
  inside : ∀ c, c ∈ unvisited ∨ c ∈ left ∨ .leave c ∈ steps → c ∈ cells
  fresh : ∀ c ∈ unvisited, c ∉ left ∧ .leave c ∉ steps
  waiting : ∀ c ∈ unvisited, .enter c ∈ steps
  nodup : left.Nodup
  apart : ∀ c ∈ left, .leave c ∉ steps
  once : ∀ c, ¬[WalkStep.leave c, .leave c].Sublist steps
  leftClosed : ∀ c ∈ left, ∀ d ∈ next c, d ∉ unvisited
  pending : ∀ c, .leave c ∈ steps → ∀ d ∈ next c, d ∈ unvisited →
    [WalkStep.enter d, .leave c].Sublist steps
  below : ∀ c, ∀ d ∈ cells, [WalkStep.enter d, .leave c].Sublist steps ∨
    [WalkStep.leave d, .leave c].Sublist steps → ReflTransGen (EdgeInto next cells) c d
  late : Late (EdgeInto next cells) (fun y => .leave y ∈ steps) left

theorem walkInv_start : WalkInv next cells cells [] (cells.toList.map .enter) where
  visited c hc := .inl hc
  inside c h := by simpa using h
  fresh c _ := by simp
  waiting c hc := List.mem_map_of_mem (Std.ExtTreeSet.mem_toList.mpr hc)
  nodup := List.nodup_nil
  apart c hc := absurd hc List.not_mem_nil
  once c h := by simpa using (mem_of_pair_sublist h).1
  leftClosed c hc := absurd hc List.not_mem_nil
  pending c hc := by simp at hc
  below c d _ h := by
    rcases h with h | h <;> simpa using (mem_of_pair_sublist h).2
  late A x B h := by simp at h

/-! ## 3. Steps of the walk -/

/-- A cell is left once. -/
theorem WalkInv.not_left_again {cell : CellKey}
    (h : WalkInv next cells unvisited left (.leave cell :: steps)) : .leave cell ∉ steps :=
  fun hs => h.once cell (pair_sublist_cons.mpr (.inl ⟨rfl, hs⟩))

/-- When a cell is left, none of its neighbours waits to be entered any more. -/
theorem WalkInv.entered_of_leaving {cell : CellKey}
    (h : WalkInv next cells unvisited left (.leave cell :: steps)) :
    ∀ d ∈ next cell, d ∉ unvisited := by
  intro d hd hu
  rcases pair_sublist_cons.mp (h.pending cell List.mem_cons_self d hd hu) with he | he
  · cases he.1
  · exact h.not_left_again (mem_of_pair_sublist he).2

/-- When a cell is left, what it reaches outside of the cells left so far reaches it as well. -/
theorem WalkInv.reach_leave {cell : CellKey}
    (h : WalkInv next cells unvisited left (.leave cell :: steps)) {w : CellKey}
    (hw : ReflTransGen (EdgeInto next cells) cell w) :
    w ∈ cell :: left ∨ ∃ y, WalkStep.leave y ∈ steps ∧ Mutual (EdgeInto next cells) cell y := by
  have hcell : cell ∈ cells := h.inside cell (.inr (.inr List.mem_cons_self))
  induction hw with
  | refl => exact .inl List.mem_cons_self
  | @tail b d hb hbd ih =>
    rcases ih with hbl | hy
    · have hd : d ∉ unvisited := by
        rcases List.mem_cons.mp hbl with rfl | hbl
        · exact h.entered_of_leaving d hbd.1
        · exact h.leftClosed b hbl d hbd.1
      rcases (h.visited d hbd.2).resolve_left hd with hdl | hds
      · exact .inl (List.mem_cons_of_mem _ hdl)
      · rcases List.mem_cons.mp hds with e | hds
        · cases e
          exact .inl List.mem_cons_self
        · have hback := h.below d cell hcell (.inr (pair_sublist_cons.mpr (.inl ⟨rfl, hds⟩)))
          exact .inr ⟨d, hds, hb.tail hbd, hback⟩
    · exact .inr hy

theorem WalkInv.leave {cell : CellKey}
    (h : WalkInv next cells unvisited left (.leave cell :: steps)) :
    WalkInv next cells unvisited (cell :: left) steps where
  visited c hc := by
    rcases h.visited c hc with hc | hc | hc
    · exact .inl hc
    · exact .inr (.inl (List.mem_cons_of_mem _ hc))
    · rcases List.mem_cons.mp hc with e | hc
      · cases e
        exact .inr (.inl List.mem_cons_self)
      · exact .inr (.inr hc)
  inside c hc := by
    rcases hc with hc | hc | hc
    · exact h.inside c (.inl hc)
    · rcases List.mem_cons.mp hc with rfl | hc
      · exact h.inside c (.inr (.inr List.mem_cons_self))
      · exact h.inside c (.inr (.inl hc))
    · exact h.inside c (.inr (.inr (List.mem_cons_of_mem _ hc)))
  fresh c hc := by
    obtain ⟨h1, h2⟩ := h.fresh c hc
    refine ⟨fun hl => ?_, fun hs => h2 (List.mem_cons_of_mem _ hs)⟩
    rcases List.mem_cons.mp hl with rfl | hl
    · exact h2 List.mem_cons_self
    · exact h1 hl
  waiting c hc := by
    rcases List.mem_cons.mp (h.waiting c hc) with e | hs
    · cases e
    · exact hs
  nodup := List.nodup_cons.mpr ⟨fun hl => h.apart cell hl List.mem_cons_self, h.nodup⟩
  apart c hc hs := by
    rcases List.mem_cons.mp hc with rfl | hc
    · exact h.not_left_again hs
    · exact h.apart c hc (List.mem_cons_of_mem _ hs)
  once c hs := h.once c (pair_sublist_cons.mpr (.inr hs))
  leftClosed c hc d hd := by
    rcases List.mem_cons.mp hc with rfl | hc
    · exact h.entered_of_leaving d hd
    · exact h.leftClosed c hc d hd
  pending c hc d hd hu := by
    rcases pair_sublist_cons.mp (h.pending c (List.mem_cons_of_mem _ hc) d hd hu) with he | he
    · cases he.1
    · exact he
  below c d hd hs := by
    refine h.below c d hd (hs.imp ?_ ?_) <;> exact fun hs => pair_sublist_cons.mpr (.inr hs)
  late A x B e w hw := by
    rcases List.cons_eq_append_iff.mp e with ⟨rfl, hx⟩ | ⟨A', rfl, hl⟩
    · obtain ⟨rfl, rfl⟩ := List.cons.inj hx
      exact (h.reach_leave hw).imp_right fun ⟨y, hy, hm⟩ => ⟨y, .inr hy, hm⟩
    · refine (h.late A' x B hl w hw).imp_right fun ⟨y, hy, hm⟩ => ⟨y, ?_, hm⟩
      rcases hy with hy | hy
      · exact .inl (List.mem_cons_of_mem _ hy)
      · rcases List.mem_cons.mp hy with e | hy
        · cases e
          exact .inl List.mem_cons_self
        · exact .inr hy

theorem WalkInv.skip {cell : CellKey}
    (h : WalkInv next cells unvisited left (.enter cell :: steps)) (hc : cell ∉ unvisited) :
    WalkInv next cells unvisited left steps := by
  have hleave : ∀ c, WalkStep.leave c ∈ .enter cell :: steps ↔ .leave c ∈ steps := by
    intro c
    simp
  constructor
  case visited => simpa only [hleave] using h.visited
  case inside => simpa only [hleave] using h.inside
  case fresh => simpa only [hleave] using h.fresh
  case waiting =>
    intro c hcc
    rcases List.mem_cons.mp (h.waiting c hcc) with e | hs
    · cases e
      exact absurd hcc hc
    · exact hs
  case nodup => exact h.nodup
  case apart => simpa only [hleave] using h.apart
  case once => exact fun c hcc => h.once c (pair_sublist_cons.mpr (.inr hcc))
  case leftClosed => exact h.leftClosed
  case pending =>
    intro c hcc d hd hu
    rcases pair_sublist_cons.mp (h.pending c ((hleave c).mpr hcc) d hd hu) with ⟨e, -⟩ | hs
    · cases e
      exact absurd hu hc
    · exact hs
  case below =>
    intro c d hd hs
    refine h.below c d hd (hs.imp ?_ ?_) <;> exact fun hs => pair_sublist_cons.mpr (.inr hs)
  case late => simpa only [hleave] using h.late

theorem mem_enteredSteps {cell c : CellKey} :
    WalkStep.leave c ∈ (next cell).map .enter ++ .leave cell :: steps ↔
      c = cell ∨ .leave c ∈ .enter cell :: steps := by
  simp

/-- When a cell is entered, it reaches what is to be entered or left above it. Either both cells
    were there before, or the upper one is the entered cell or one of its neighbours, and the
    entered cell was above the lower one. -/
theorem WalkInv.reach_enter {cell : CellKey}
    (h : WalkInv next cells unvisited left (.enter cell :: steps)) (hc : cell ∈ unvisited)
    {c d : CellKey} (hd : d ∈ cells)
    (hs : [WalkStep.enter d, .leave c].Sublist ((next cell).map .enter ++ .leave cell :: steps) ∨
      [WalkStep.leave d, .leave c].Sublist ((next cell).map .enter ++ .leave cell :: steps)) :
    ReflTransGen (EdgeInto next cells) c d := by
  have hcell : cell ∈ cells := h.inside cell (.inl hc)
  have hover : ∀ c, WalkStep.leave c ∈ steps → ReflTransGen (EdgeInto next cells) c cell := by
    intro c hs
    exact h.below c cell hcell (.inl (pair_sublist_cons.mpr (.inl ⟨rfl, hs⟩)))
  rcases hs with hs | hs
  · rcases pair_sublist_append.mp hs with hs | ⟨hs, ht⟩ | hs
    · simpa using (mem_of_pair_sublist hs).2
    · have hedge : EdgeInto next cells cell d := ⟨by simpa using hs, hd⟩
      rcases List.mem_cons.mp ht with e | ht
      · cases e
        exact .single hedge
      · exact (hover c ht).tail hedge
    · rcases pair_sublist_cons.mp hs with ⟨e, -⟩ | hs
      · cases e
      · exact h.below c d hd (.inl (pair_sublist_cons.mpr (.inr hs)))
  · rcases pair_sublist_append.mp hs with hs | ⟨hs, -⟩ | hs
    · simpa using (mem_of_pair_sublist hs).1
    · simp at hs
    · rcases pair_sublist_cons.mp hs with ⟨e, ht⟩ | hs
      · cases e
        exact hover c ht
      · exact h.below c d hd (.inr (pair_sublist_cons.mpr (.inr hs)))

theorem WalkInv.enter {cell : CellKey}
    (h : WalkInv next cells unvisited left (.enter cell :: steps)) (hc : cell ∈ unvisited) :
    WalkInv next cells (unvisited.erase cell) left
      ((next cell).map .enter ++ .leave cell :: steps) where
  visited c hcc := by
    rw [mem_erase_iff, mem_enteredSteps]
    by_cases he : c = cell
    · exact .inr (.inr (.inl he))
    · rcases h.visited c hcc with h | h | h
      · exact .inl ⟨he, h⟩
      · exact .inr (.inl h)
      · exact .inr (.inr (.inr h))
  inside c hcc := by
    rw [mem_erase_iff, mem_enteredSteps] at hcc
    rcases hcc with ⟨-, hcc⟩ | hcc | rfl | hcc
    · exact h.inside c (.inl hcc)
    · exact h.inside c (.inr (.inl hcc))
    · exact h.inside c (.inl hc)
    · exact h.inside c (.inr (.inr hcc))
  fresh c hcc := by
    rw [mem_erase_iff] at hcc
    rw [mem_enteredSteps]
    exact ⟨(h.fresh c hcc.2).1, fun hs => hs.elim hcc.1 (h.fresh c hcc.2).2⟩
  waiting c hcc := by
    rw [mem_erase_iff] at hcc
    rcases List.mem_cons.mp (h.waiting c hcc.2) with e | hs
    · cases e
      exact absurd rfl hcc.1
    · exact List.mem_append_right _ (List.mem_cons_of_mem _ hs)
  nodup := h.nodup
  apart c hcc hs := by
    rcases mem_enteredSteps.mp hs with rfl | hs
    · exact (h.fresh c hc).1 hcc
    · exact h.apart c hcc hs
  once c hcc := by
    -- the cell was not in the walk before, so that it is not left twice
    rcases pair_sublist_append.mp hcc with hs | ⟨hs, -⟩ | hs
    · simpa using (mem_of_pair_sublist hs).1
    · simp at hs
    · rcases pair_sublist_cons.mp hs with ⟨e, hs⟩ | hs
      · cases e
        exact (h.fresh cell hc).2 (List.mem_cons_of_mem _ hs)
      · exact h.once c (pair_sublist_cons.mpr (.inr hs))
  leftClosed c hcc d hd hu := h.leftClosed c hcc d hd (mem_erase_iff.mp hu).2
  pending c hcc d hd hu := by
    rw [mem_erase_iff] at hu
    rcases mem_enteredSteps.mp hcc with rfl | hs
    · exact pair_sublist_append.mpr (.inr (.inl ⟨List.mem_map_of_mem hd, List.mem_cons_self⟩))
    · rcases pair_sublist_cons.mp (h.pending c hs d hd hu.2) with ⟨e, -⟩ | hs
      · cases e
        exact absurd rfl hu.1
      · exact pair_sublist_append.mpr (.inr (.inr (pair_sublist_cons.mpr (.inr hs))))
  below c d hd hs := h.reach_enter hc hd hs
  late A x B e w hw := by
    refine (h.late A x B e w hw).imp_right fun ⟨y, hy, hm⟩ => ⟨y, hy.imp_right fun hy => ?_, hm⟩
    exact mem_enteredSteps.mpr (.inr hy)

/-! ## 4. The whole walk -/

/-- The invariant holds when the walk is over. -/
theorem finishOrder_inv (h : WalkInv next cells unvisited left steps) :
    ∃ rest, WalkInv next cells rest (finishOrder next unvisited left steps) [] := by
  fun_induction finishOrder next unvisited left steps with
  | case1 unvisited left => exact ⟨unvisited, h⟩
  | case2 unvisited left cell steps ih => exact ih h.leave
  | case3 unvisited left cell steps hc ih => exact ih (h.enter hc)
  | case4 unvisited left cell steps hc ih => exact ih (h.skip hc)

/-- **A walk over a set of cells** lists each of them once, and is late. -/
theorem finishOrder_spec (next : CellKey → List CellKey) (cells : CellSet) :
    (∀ c, c ∈ finishOrder next cells [] (cells.toList.map .enter) ↔ c ∈ cells) ∧
    (finishOrder next cells [] (cells.toList.map .enter)).Nodup ∧
    Late (EdgeInto next cells) (fun _ => False)
      (finishOrder next cells [] (cells.toList.map .enter)) := by
  obtain ⟨rest, h⟩ := finishOrder_inv (@walkInv_start next cells)
  refine ⟨fun c => ⟨fun hc => h.inside c (.inr (.inl hc)), fun hc => ?_⟩, h.nodup, ?_⟩
  · rcases h.visited c hc with hr | hl | hs
    · exact absurd (h.waiting c hr) List.not_mem_nil
    · exact hl
    · exact absurd hs List.not_mem_nil
  · simpa only [List.not_mem_nil] using h.late

end Walk

end Gridcalc
