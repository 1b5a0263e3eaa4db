import Mathlib.Data.List.Induction
import Gridcalc.Proofs.Dependency.Downstream
import Gridcalc.Proofs.Dependency.Walk

/-!
# The schedule puts circles together and precedents first

* `Graph.ReadsWithin`: a cell of a set reads another one of the set;
* `Graph.IsSchedule`: groups of cells that hold each cell of a set once, put together only cells
  that reach each other, and never read a later group;
* `Graph.schedule_isSchedule`: this is what `Graph.schedule` gives for a mirrored graph;
* `Graph.IsSchedule.mem_of_mutual`: cells that reach each other are in one group;
* `Graph.IsSchedule.cyclic_iff`: a group is marked exactly if its cells lie on a circle;
* `Graph.IsSchedule.induction`: a property passes from the cells that are read to the reader.

Only the step from "a cell of the group reaches the cell it was found from" to "and the other way
round" needs the order of the first walk (`Late`); that no group reads a later one follows from the
collection alone.
-/

namespace Gridcalc

open Relation

/-! ## 1. Collecting one group -/

section Take

variable {next : CellKey → List CellKey} {free : CellSet} {found stack : List CellKey}

/-- What is collected is taken out of the free cells, and nothing else. -/
theorem mem_takeReachable (c : CellKey) :
    (c ∈ (takeReachable next free found stack).1 ∨ c ∈ (takeReachable next free found stack).2 ↔
      c ∈ found ∨ c ∈ free) ∧
    (c ∈ (takeReachable next free found stack).2 → c ∈ free) := by
  fun_induction takeReachable next free found stack with
  | case1 free found => exact ⟨Iff.rfl, id⟩
  | case2 free found cell stack hc ih =>
    refine ⟨ih.1.trans ?_, fun h => (mem_erase_iff.mp (ih.2 h)).2⟩
    rw [mem_erase_iff, List.mem_cons]
    by_cases he : c = cell
    · subst he
      simp [hc]
    · simp [he]
  | case3 free found cell stack _ ih => exact ih

theorem nodup_takeReachable (hf : found.Nodup) (hd : ∀ c ∈ found, c ∉ free) :
    (takeReachable next free found stack).1.Nodup ∧
    ∀ c ∈ (takeReachable next free found stack).1,
      c ∉ (takeReachable next free found stack).2 := by
  fun_induction takeReachable next free found stack with
  | case1 free found => exact ⟨hf, hd⟩
  | case2 free found cell stack hc ih =>
    refine ih (List.nodup_cons.mpr ⟨fun h => hd cell h hc, hf⟩) fun c hcf he => ?_
    obtain ⟨hne, hfree⟩ := mem_erase_iff.mp he
    exact hd c ((List.mem_cons.mp hcf).resolve_left hne) hfree
  | case3 free found cell stack _ ih => exact ih hf hd

/-- The free cells of the stack are collected. -/
theorem stack_takeReachable {c : CellKey} (hs : c ∈ stack) :
    c ∉ (takeReachable next free found stack).2 := by
  fun_induction takeReachable next free found stack with
  | case1 free found => cases hs
  | case2 free found cell stack hc ih =>
    rcases List.mem_cons.mp hs with rfl | hs
    · exact fun h => (mem_erase_iff.mp ((mem_takeReachable c).2 h)).1 rfl
    · exact ih (List.mem_append_right _ hs)
  | case3 free found cell stack hc ih =>
    rcases List.mem_cons.mp hs with rfl | hs
    · exact fun h => hc ((mem_takeReachable c).2 h)
    · exact ih hs

/-- What can be reached from a collected cell is not left over. -/
theorem closed_takeReachable (hd : ∀ a ∈ found, ∀ b ∈ next a, b ∈ free → b ∈ stack) {a b : CellKey}
    (ha : a ∈ (takeReachable next free found stack).1) (hab : b ∈ next a) :
    b ∉ (takeReachable next free found stack).2 := by
  fun_induction takeReachable next free found stack with
  | case1 free found => exact fun hb => absurd (hd a ha b hab hb) List.not_mem_nil
  | case2 free found cell stack hc ih =>
    refine ih (fun x hx y hy hyf => ?_) ha
    obtain ⟨hne, hyf⟩ := mem_erase_iff.mp hyf
    rcases List.mem_cons.mp hx with rfl | hx
    · exact List.mem_append_left _ hy
    · exact List.mem_append_right _ ((List.mem_cons.mp (hd x hx y hy hyf)).resolve_left hne)
  | case3 free found cell stack hc ih =>
    refine ih (fun x hx y hy hyf => ?_) ha
    rcases List.mem_cons.mp (hd x hx y hy hyf) with rfl | h
    · exact absurd hyf hc
    · exact h

/-- A collected cell can be reached from the stack through free cells. -/
theorem reach_takeReachable {all : CellSet} (hall : ∀ c ∈ free, c ∈ all) {c : CellKey}
    (hc : c ∈ (takeReachable next free found stack).1) :
    c ∈ found ∨ ∃ s ∈ stack, s ∈ all ∧ ReflTransGen (EdgeInto next all) s c := by
  fun_induction takeReachable next free found stack with
  | case1 free found => exact .inl hc
  | case2 free found cell stack hcell ih =>
    rcases ih (fun x hx => hall x (mem_erase_iff.mp hx).2) hc with h | ⟨s, hs, hsa, hr⟩
    · rcases List.mem_cons.mp h with rfl | h
      · exact .inr ⟨c, List.mem_cons_self, hall c hcell, .refl⟩
      · exact .inl h
    · rcases List.mem_append.mp hs with hs | hs
      · exact .inr ⟨cell, List.mem_cons_self, hall cell hcell, hr.head ⟨hs, hsa⟩⟩
      · exact .inr ⟨s, List.mem_cons_of_mem _ hs, hsa, hr⟩
  | case3 free found cell stack _ ih =>
    exact (ih hall hc).imp_right fun ⟨s, hs, hsr⟩ => ⟨s, List.mem_cons_of_mem _ hs, hsr⟩

end Take

/-! ## 2. Schedules -/

namespace Graph

variable {g : Graph} {cells : CellSet}

/-- A cell of a set reads another cell of the set. -/
def ReadsWithin (g : Graph) (cells : CellSet) (a b : CellKey) : Prop :=
  a ∈ cells ∧ b ∈ cells ∧ g.Reads a b

/-- An order in which to evaluate some cells: each of them once, cells that reach each other
    together, and no group before one that it reads. -/
structure IsSchedule (g : Graph) (cells : CellSet) (groups : List CalcGroup) : Prop where
  covers : ∀ c, c ∈ cells ↔ ∃ G ∈ groups, c ∈ G.cells
  nodup : (groups.flatMap CalcGroup.cells).Nodup
  ordered : groups.Pairwise fun G H => ∀ a ∈ G.cells, ∀ b ∈ H.cells, ¬g.Reads a b
  together : ∀ G ∈ groups, ∀ a ∈ G.cells, ∀ b ∈ G.cells, ReflTransGen (g.ReadsWithin cells) a b
  flagged : ∀ G ∈ groups, G.cyclic = true ↔
    (∃ a ∈ G.cells, ∃ b ∈ G.cells, a ≠ b) ∨ ∃ c ∈ G.cells, g.Reads c c

theorem mem_groupOf {found : List CellKey} {c : CellKey} :
    c ∈ (g.groupOf found).cells ↔ c ∈ found := by
  simp only [groupOf, Std.ExtTreeSet.mem_toList, Std.ExtTreeSet.mem_ofList,
    List.contains_iff_mem]

theorem nodup_toList (s : CellSet) : s.toList.Nodup := by
  refine s.distinct_toList.imp fun h e => h ?_
  rw [e]
  exact Std.ReflCmp.compare_self

theorem nodup_groupOf (found : List CellKey) : (g.groupOf found).cells.Nodup := by
  have h := nodup_toList (Std.ExtTreeSet.ofList found)
  exact h

theorem groupOf_flagged {found : List CellKey} (hne : found ≠ []) (hn : found.Nodup) :
    (g.groupOf found).cyclic = true ↔
      (∃ a ∈ (g.groupOf found).cells, ∃ b ∈ (g.groupOf found).cells, a ≠ b) ∨
        ∃ c ∈ (g.groupOf found).cells, g.Reads c c := by
  simp only [mem_groupOf]
  match found, hne with
  | [c], _ =>
    have h : (g.groupOf [c]).cyclic = g.readsItself c := rfl
    simp [h, readsItself, Reads, Std.ExtTreeSet.contains_iff_mem]
  | a :: b :: rest, _ =>
    have hab : a ≠ b := fun e => (List.nodup_cons.mp hn).1 (e ▸ List.mem_cons_self)
    refine iff_of_true rfl (.inl ⟨a, List.mem_cons_self, b, ?_, hab⟩)
    exact List.mem_cons_of_mem _ List.mem_cons_self

/-! ## 3. Collecting all groups -/

/-- What holds all along the collection: `groups` are found, `free` is left, and `left` are the
    cells of the walk that were not looked at yet. -/
structure CollectInv (g : Graph) (cells free : CellSet) (groups : List CalcGroup)
    (left : List CellKey) : Prop where
  covers : ∀ c, c ∈ cells ↔ c ∈ free ∨ ∃ G ∈ groups, c ∈ G.cells
  nodup : (groups.flatMap CalcGroup.cells).Nodup
  apart : ∀ c ∈ free, ∀ G ∈ groups, c ∉ G.cells
  unread : ∀ c ∈ free, ∀ G ∈ groups, ∀ b ∈ G.cells, ¬g.Reads c b
  ordered : groups.Pairwise fun G H => ∀ a ∈ G.cells, ∀ b ∈ H.cells, ¬g.Reads a b
  together : ∀ G ∈ groups, ∀ a ∈ G.cells, ∀ b ∈ G.cells, ReflTransGen (g.ReadsWithin cells) a b
  flagged : ∀ G ∈ groups, G.cyclic = true ↔
    (∃ a ∈ G.cells, ∃ b ∈ G.cells, a ≠ b) ∨ ∃ c ∈ G.cells, g.Reads c c
  remaining : ∀ c ∈ free, c ∈ left
  leftNodup : left.Nodup
  late : ∀ A x B, left = A ++ x :: B → x ∈ free → ∀ w ∈ free,
    ReflTransGen (g.ReadsWithin cells) x w →
      w ∈ x :: B ∨ ∃ y ∈ A, y ∈ free ∧ Mutual (g.ReadsWithin cells) x y

variable {free : CellSet} {groups : List CalcGroup} {left : List CellKey}

/-- What a cell reads that is in no group is in no group either. -/
theorem reads_free (hcovers : ∀ c, c ∈ cells ↔ c ∈ free ∨ ∃ G ∈ groups, c ∈ G.cells)
    (hunread : ∀ c ∈ free, ∀ G ∈ groups, ∀ b ∈ G.cells, ¬g.Reads c b) {a b : CellKey}
    (ha : a ∈ free) (hab : ReflTransGen (g.ReadsWithin cells) a b) : b ∈ free := by
  induction hab with
  | refl => exact ha
  | tail _ hbc ih =>
    refine ((hcovers _).mp hbc.2.1).resolve_right ?_
    intro ⟨G, hG, hc⟩
    exact hunread _ ih G hG _ hc hbc.2.2

/-- **The last free cell that the walk has left is reached back from all that reach it.** -/
theorem CollectInv.reached_back {cell : CellKey}
    (h : CollectInv g cells free groups (cell :: left)) (hcell : cell ∈ free) {a : CellKey}
    (ha : a ∈ free) (hr : ReflTransGen (g.ReadsWithin cells) a cell) :
    ReflTransGen (g.ReadsWithin cells) cell a := by
  classical
  -- the first of the cells on circles with `a` in the order of the walk
  have hex : ∃ y, (cell :: left).find? (fun y => decide (Mutual (g.ReadsWithin cells) a y)) =
      some y := by
    rw [← Option.isSome_iff_exists, List.find?_isSome]
    exact ⟨a, h.remaining a ha, by simpa using ⟨ReflTransGen.refl, ReflTransGen.refl⟩⟩
  obtain ⟨y, hy⟩ := hex
  obtain ⟨hay, A, B, hl, hA⟩ := List.find?_eq_some_iff_append.mp hy
  have hay : Mutual (g.ReadsWithin cells) a y := by simpa using hay
  have hyf : y ∈ free := reads_free h.covers h.unread ha hay.1
  rcases h.late A y B hl hyf cell hcell (hay.2.trans hr) with hB | ⟨z, hz, -, hyz⟩
  · rcases List.cons_eq_append_iff.mp hl with ⟨-, hl⟩ | ⟨A', -, hl⟩
    · obtain ⟨rfl, -⟩ := List.cons.inj hl
      exact hay.2
    · refine absurd ?_ (List.nodup_cons.mp h.leftNodup).1
      rw [hl]
      exact List.mem_append_right _ hB
  · exact absurd (hay.trans hyz) (by simpa using hA z hz)

theorem CollectInv.skip {cell : CellKey} (h : CollectInv g cells free groups (cell :: left))
    (hcell : cell ∉ free) : CollectInv g cells free groups left where
  covers := h.covers
  nodup := h.nodup
  apart := h.apart
  unread := h.unread
  ordered := h.ordered
  together := h.together
  flagged := h.flagged
  remaining c hc := by
    rcases List.mem_cons.mp (h.remaining c hc) with rfl | hl
    · exact absurd hc hcell
    · exact hl
  leftNodup := (List.nodup_cons.mp h.leftNodup).2
  late A x B hl hx w hw hr := by
    refine (h.late (cell :: A) x B (by rw [hl]; rfl) hx w hw hr).imp_right ?_
    intro ⟨y, hy, hyf, hm⟩
    rcases List.mem_cons.mp hy with rfl | hy
    · exact absurd hyf hcell
    · exact ⟨y, hy, hyf, hm⟩

/-- A collected cell and the cell it was found from reach each other. -/
theorem CollectInv.mutual_of_found (hm : g.Mirrored) {cell : CellKey}
    (h : CollectInv g cells free groups (cell :: left)) (hcell : cell ∈ free) {a : CellKey}
    (ha : a ∈ (takeReachable (fun c => (g.dependents c).toList) free [] [cell]).1) :
    Mutual (g.ReadsWithin cells) a cell := by
  have haf : a ∈ free := by
    have := ((@mem_takeReachable _ free [] [cell] a).1).mp (.inl ha)
    exact this.resolve_left List.not_mem_nil
  have hsub : ∀ c ∈ free, c ∈ cells := fun c hc => (h.covers c).mpr (.inl hc)
  have hr : ReflTransGen (g.ReadsWithin cells) a cell := by
    rcases reach_takeReachable hsub ha with hn | ⟨s, hs, -, hr⟩
    · cases hn
    · rw [List.mem_singleton.mp hs] at hr
      -- the walk went along the readers, that is, against the direction of reading
      have hback : ∀ c, ReflTransGen (EdgeInto (fun c => (g.dependents c).toList) cells) cell c →
          c ∈ cells ∧ ReflTransGen (g.ReadsWithin cells) c cell := by
        intro c hc
        induction hc with
        | refl => exact ⟨hsub cell hcell, .refl⟩
        | tail _ hbc ih =>
          have hread : g.Reads _ _ := (hm _ _).mpr (Std.ExtTreeSet.mem_toList.mp hbc.1)
          exact ⟨hbc.2, ih.2.head ⟨hbc.2, ih.1, hread⟩⟩
      exact (hback a hr).2
  exact ⟨hr, h.reached_back hcell haf hr⟩

/-- The free cells are parted into a group around a cell and a rest that reads nothing of it. -/
structure GroupTaken (g : Graph) (free : CellSet) (cell : CellKey) (found : List CellKey)
    (rest : CellSet) : Prop where
  parts : ∀ c, c ∈ found ∨ c ∈ rest ↔ c ∈ free
  nodup : found.Nodup
  apart : ∀ c ∈ found, c ∉ rest
  taken : cell ∉ rest
  unread : ∀ c ∈ rest, ∀ b ∈ found, ¬g.Reads c b

theorem groupTaken_takeReachable (hm : g.Mirrored) {cell : CellKey} {found : List CellKey}
    {rest : CellSet}
    (htake : takeReachable (fun c => (g.dependents c).toList) free [] [cell] = (found, rest)) :
    GroupTaken g free cell found rest := by
  let next : CellKey → List CellKey := fun c => (g.dependents c).toList
  have hparts := fun c => (@mem_takeReachable next free [] [cell] c).1
  have hnodup := @nodup_takeReachable next free [] [cell] List.nodup_nil (by simp)
  have htaken := @stack_takeReachable next free [] [cell] cell (List.mem_singleton_self cell)
  have hclosed := @closed_takeReachable next free [] [cell] (by simp)
  rw [htake] at hnodup htaken hclosed
  simp only [next, htake, List.not_mem_nil, false_or] at hparts
  refine ⟨hparts, hnodup.1, hnodup.2, htaken, fun c hc b hb hcb => hclosed hb ?_ hc⟩
  exact Std.ExtTreeSet.mem_toList.mpr ((hm b c).mp hcb)

section Taken

variable {cell : CellKey} {found : List CellKey} {rest : CellSet}

theorem GroupTaken.mem_free (h : GroupTaken g free cell found rest) {c : CellKey}
    (hc : c ∈ rest) : c ∈ free := (h.parts c).mp (.inr hc)

theorem GroupTaken.found_mem_free (h : GroupTaken g free cell found rest) {c : CellKey}
    (hc : c ∈ found) : c ∈ free := (h.parts c).mp (.inl hc)

theorem GroupTaken.covers (ht : GroupTaken g free cell found rest)
    (hcovers : ∀ c, c ∈ cells ↔ c ∈ free ∨ ∃ G ∈ groups, c ∈ G.cells) (c : CellKey) :
    c ∈ cells ↔ c ∈ rest ∨ ∃ G ∈ g.groupOf found :: groups, c ∈ G.cells := by
  rw [hcovers c, ← ht.parts c]
  simp only [List.mem_cons, exists_eq_or_imp, mem_groupOf]
  rw [or_assoc, or_left_comm]

theorem GroupTaken.unread_all (ht : GroupTaken g free cell found rest)
    (hunread : ∀ c ∈ free, ∀ G ∈ groups, ∀ b ∈ G.cells, ¬g.Reads c b) :
    ∀ c ∈ rest, ∀ G ∈ g.groupOf found :: groups, ∀ b ∈ G.cells, ¬g.Reads c b := by
  intro c hc G hG b hb
  rcases List.mem_cons.mp hG with rfl | hG
  · exact ht.unread c hc b (mem_groupOf.mp hb)
  · exact hunread c (ht.mem_free hc) G hG b hb

/-- The invariant is kept when a group is taken whose cells reach the one it was found from, and
    the other way round. -/
theorem CollectInv.take (h : CollectInv g cells free groups (cell :: left)) (hcell : cell ∈ free)
    (ht : GroupTaken g free cell found rest)
    (hmutual : ∀ a ∈ found, Mutual (g.ReadsWithin cells) a cell) :
    CollectInv g cells rest (g.groupOf found :: groups) left where
  covers := ht.covers h.covers
  nodup := by
    rw [List.flatMap_cons, List.nodup_append]
    refine ⟨nodup_groupOf found, h.nodup, fun a ha b hb e => ?_⟩
    subst e
    obtain ⟨G, hG, hb⟩ := List.mem_flatMap.mp hb
    exact h.apart a (ht.found_mem_free (mem_groupOf.mp ha)) G hG hb
  apart c hc G hG hcG := by
    rcases List.mem_cons.mp hG with rfl | hG
    · exact ht.apart c (mem_groupOf.mp hcG) hc
    · exact h.apart c (ht.mem_free hc) G hG hcG
  unread := ht.unread_all h.unread
  ordered := by
    refine List.pairwise_cons.mpr ⟨fun H hH a ha b hb => ?_, h.ordered⟩
    exact h.unread a (ht.found_mem_free (mem_groupOf.mp ha)) H hH b hb
  together G hG a ha b hb := by
    rcases List.mem_cons.mp hG with rfl | hG
    · have hac := hmutual a (mem_groupOf.mp ha)
      have hbc := hmutual b (mem_groupOf.mp hb)
      exact hac.1.trans hbc.2
    · exact h.together G hG a ha b hb
  flagged G hG := by
    rcases List.mem_cons.mp hG with rfl | hG
    · have hfound : cell ∈ found := ((ht.parts cell).mpr hcell).resolve_right ht.taken
      exact groupOf_flagged (List.ne_nil_of_mem hfound) ht.nodup
    · exact h.flagged G hG
  remaining c hc := by
    rcases List.mem_cons.mp (h.remaining c (ht.mem_free hc)) with rfl | hl
    · exact absurd hc ht.taken
    · exact hl
  leftNodup := (List.nodup_cons.mp h.leftNodup).2
  late A x B hl hx w hw hr := by
    have hlate := h.late (cell :: A) x B (by rw [hl]; rfl) (ht.mem_free hx) w (ht.mem_free hw) hr
    refine hlate.imp_right fun ⟨y, hy, _, hxy⟩ => ?_
    have hyr : y ∈ rest := reads_free (ht.covers h.covers) (ht.unread_all h.unread) hx hxy.1
    rcases List.mem_cons.mp hy with rfl | hy
    · exact absurd hyr ht.taken
    · exact ⟨y, hy, hyr, hxy⟩

end Taken

theorem collectGroups_isSchedule (hm : g.Mirrored)
    (h : CollectInv g cells free groups left) :
    IsSchedule g cells (g.collectGroups free groups left) := by
  induction left generalizing free groups with
  | nil =>
    refine ⟨fun c => ?_, h.nodup, h.ordered, h.together, h.flagged⟩
    refine (h.covers c).trans ⟨fun hc => hc.resolve_left fun hf => ?_, Or.inr⟩
    exact absurd (h.remaining c hf) List.not_mem_nil
  | cons cell left ih =>
    by_cases hcell : cell ∈ free
    · simp only [collectGroups, if_pos hcell]
      have htaken : GroupTaken g free cell _ _ := groupTaken_takeReachable hm rfl
      exact ih (h.take hcell htaken fun a ha => h.mutual_of_found hm hcell ha)
    · simp only [collectGroups, if_neg hcell]
      exact ih (h.skip hcell)

/-- **The schedule of some cells** puts the cells on common circles together and every cell behind
    what it reads. -/
theorem schedule_isSchedule (hm : g.Mirrored) (cells : CellSet) :
    IsSchedule g cells (g.schedule cells) := by
  obtain ⟨hmem, hnodup, hlate⟩ := finishOrder_spec (fun c => (g.precedents c).toList) cells
  refine collectGroups_isSchedule hm ⟨by simp, by simp, by simp, by simp, by simp, by simp,
    by simp, fun c hc => (hmem c).mpr hc, hnodup, fun A x B hl hx w hw hr => ?_⟩
  -- reading within the cells is an edge of the walk
  have hedge : ∀ a b, g.ReadsWithin cells a b →
      EdgeInto (fun c => (g.precedents c).toList) cells a b :=
    fun a b hab => ⟨Std.ExtTreeSet.mem_toList.mpr hab.2.2, hab.2.1⟩
  have hread : ∀ a ∈ cells, ∀ b, ReflTransGen (EdgeInto (fun c => (g.precedents c).toList) cells)
      a b → b ∈ cells ∧ ReflTransGen (g.ReadsWithin cells) a b := by
    intro a ha b hab
    induction hab with
    | refl => exact ⟨ha, .refl⟩
    | tail _ hbc ih =>
      have hstep : g.ReadsWithin cells _ _ := ⟨ih.1, hbc.2, Std.ExtTreeSet.mem_toList.mp hbc.1⟩
      exact ⟨hbc.2, ih.2.tail hstep⟩
  refine (hlate A x B hl w (ReflTransGen.mono hedge x w hr)).imp_right fun ⟨y, hy, hxy⟩ => ?_
  have hyA : y ∈ A := hy.resolve_right id
  have hxyr := hread x hx y hxy.1
  exact ⟨y, hyA, hxyr.1, hxyr.2, (hread y hxyr.1 x hxy.2).2⟩

/-! ## 4. What a schedule says -/

/-- The groups up to some place are closed under reading. -/
theorem IsSchedule.closed_before {front back : List CalcGroup}
    (h : IsSchedule g cells (front ++ back)) {a b : CellKey} (ha : ∃ G ∈ front, a ∈ G.cells)
    (hab : ReflTransGen (g.ReadsWithin cells) a b) : ∃ G ∈ front, b ∈ G.cells := by
  induction hab with
  | refl => exact ha
  | tail _ hbc ih =>
    obtain ⟨G, hG, hb⟩ := ih
    obtain ⟨H, hH, hc⟩ := (h.covers _).mp hbc.2.1
    rcases List.mem_append.mp hH with hH | hH
    · exact ⟨H, hH, hc⟩
    · exact absurd hbc.2.2 ((List.pairwise_append.mp h.ordered).2.2 G hG H hH _ hb _ hc)

/-- A cell occurs in one group only. -/
theorem IsSchedule.unique {front back : List CalcGroup} {G : CalcGroup}
    (h : IsSchedule g cells (front ++ G :: back)) {c : CellKey} (hc : c ∈ G.cells) :
    ∀ H ∈ front, c ∉ H.cells := by
  intro H hH hcH
  have hn := h.nodup
  rw [List.flatMap_append, List.flatMap_cons, List.nodup_append] at hn
  exact hn.2.2 c (List.mem_flatMap.mpr ⟨H, hH, hcH⟩) c (List.mem_append_left _ hc) rfl

/-- **Cells that reach each other are in one group.** -/
theorem IsSchedule.mem_of_mutual {groups : List CalcGroup} (h : IsSchedule g cells groups)
    {G : CalcGroup} (hG : G ∈ groups) {a b : CellKey} (ha : a ∈ G.cells)
    (hab : Mutual (g.ReadsWithin cells) a b) : b ∈ G.cells := by
  obtain ⟨front, back, rfl⟩ := List.append_of_mem hG
  have hsplit : IsSchedule g cells ((front ++ [G]) ++ back) := by simpa using h
  obtain ⟨H, hH, hbH⟩ := hsplit.closed_before
    ⟨G, List.mem_append_right _ List.mem_cons_self, ha⟩ hab.1
  rcases List.mem_append.mp hH with hH | hH
  · -- the way back would lead from the groups in front to a cell that is not in them
    obtain ⟨K, hK, haK⟩ := h.closed_before ⟨H, hH, hbH⟩ hab.2
    exact absurd haK (h.unique ha K hK)
  · rwa [List.mem_singleton.mp hH] at hbH

/-- **A group is marked exactly if its cells lie on a circle.** -/
theorem IsSchedule.cyclic_iff {groups : List CalcGroup} (h : IsSchedule g cells groups)
    {G : CalcGroup} (hG : G ∈ groups) {c : CellKey} (hc : c ∈ G.cells) :
    G.cyclic = true ↔ TransGen (g.ReadsWithin cells) c c := by
  have hcell : ∀ a ∈ G.cells, a ∈ cells := fun a ha => (h.covers a).mpr ⟨G, hG, ha⟩
  rw [h.flagged G hG]
  constructor
  · intro h
    rcases h with ⟨a, ha, b, hb, hab⟩ | ⟨a, ha, haa⟩
    · have hca := h.together G hG c hc a ha
      have habr := h.together G hG a ha b hb
      have hbc := h.together G hG b hb c hc
      have hpos : TransGen (g.ReadsWithin cells) a b :=
        (reflTransGen_iff_eq_or_transGen.mp habr).resolve_left fun e => hab e.symm
      exact (TransGen.trans_right hca hpos).trans_left hbc
    · have hca := h.together G hG c hc a ha
      have hac := h.together G hG a ha c hc
      exact TransGen.trans_right hca (TransGen.head' ⟨hcell a ha, hcell a ha, haa⟩ hac)
  · intro hcycle
    obtain ⟨d, hcd, hdc⟩ := TransGen.head'_iff.mp hcycle
    by_cases he : c = d
    · subst he
      exact .inr ⟨c, hc, hcd.2.2⟩
    · exact .inl ⟨c, hc, d, h.mem_of_mutual hG hc ⟨.single hcd, hdc⟩, he⟩

/-- **Induction along a schedule**: what holds of a cell as soon as it holds of the cells that it
    reads, or the cell lies on a circle, holds of all cells. -/
theorem IsSchedule.induction {groups : List CalcGroup} (h : IsSchedule g cells groups)
    {P : CellKey → Prop}
    (step : ∀ c ∈ cells, (¬TransGen (g.ReadsWithin cells) c c →
      ∀ p ∈ cells, g.Reads c p → P p) → P c) {c : CellKey} (hc : c ∈ cells) : P c := by
  -- by induction on the groups up to some place, from the end
  have hfront : ∀ front back, groups = front ++ back → ∀ G ∈ front, ∀ c ∈ G.cells, P c := by
    intro front
    induction front using List.reverseRecOn with
    | nil => exact fun _ _ G hG => absurd hG List.not_mem_nil
    | append_singleton front G ih =>
      intro back hgroups
      rw [List.append_assoc, List.singleton_append] at hgroups
      have hbefore := ih (G :: back) hgroups
      intro H hH c hcH
      rcases List.mem_append.mp hH with hH | hH
      · exact hbefore H hH c hcH
      · rw [List.mem_singleton.mp hH] at hcH
        have hG : G ∈ groups := hgroups ▸ List.mem_append_right _ List.mem_cons_self
        refine step c ((h.covers c).mpr ⟨G, hG, hcH⟩) fun hoff p hp hcp => ?_
        obtain ⟨K, hK, hpK⟩ := (h.covers p).mp hp
        rw [hgroups] at hK
        rcases List.mem_append.mp hK with hK | hK
        · exact hbefore K hK p hpK
        · exfalso
          rcases List.mem_cons.mp hK with rfl | hK
          · have hstep : g.ReadsWithin cells c p := ⟨(h.covers c).mpr ⟨K, hG, hcH⟩, hp, hcp⟩
            exact hoff (TransGen.head' hstep (h.together K hG p hpK c hcH))
          · have hordered := h.ordered
            rw [hgroups] at hordered
            have hlater := (List.pairwise_cons.mp (List.pairwise_append.mp hordered).2.1).1
            exact hlater K hK c hcH p hpK hcp
  obtain ⟨G, hG, hcG⟩ := (h.covers c).mp hc
  exact hfront groups [] (List.append_nil groups).symm G hG c hcG

end Graph

end Gridcalc
