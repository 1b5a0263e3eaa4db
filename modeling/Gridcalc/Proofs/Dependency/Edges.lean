import Gridcalc.Dependency.Graph
import Mathlib.Data.Set.Card
import Mathlib.Logic.Relation

/-!
# The two directions of the dependency graph

A graph keeps every edge twice. This file fixes when the two copies say the same, and how each
operation changes them:

* `EdgeMap.targets` after `add` and `remove` (`mem_targets_add`, `mem_targets_remove`), and
  `EdgeMap.Tight`: no cell is kept without edges, so that a map is known by its targets
  (`EdgeMap.ext_targets`);
* `Graph.Mirrored`: a cell reads another one exactly if that one lists it as a reader;
  `Graph.setPrecedents` and `Graph.removePrecedents` keep it;
* `mem_precedents_setPrecedents`: what a cell reads is replaced, and nothing else changes;
* `Graph.Change`, `Graph.built`: the graphs that the operations on graphs build, and
  `Graph.edges_built` for what holds of all of them.
-/

namespace Gridcalc

/-- The number of cells in a list without repetitions. -/
theorem encard_eq_length {s : Set CellKey} {l : List CellKey} (hn : l.Nodup)
    (h : ∀ k, k ∈ l ↔ k ∈ s) : s.encard = l.length := by
  have hs : s = (l.toFinset : Set CellKey) := by
    ext k
    rw [List.coe_toFinset]
    exact (h k).symm
  rw [hs, Set.encard_coe_eq_coe_finsetCard, List.toFinset_card_of_nodup hn]

/-! ## 1. Edges in one direction -/

namespace EdgeMap

variable {m : EdgeMap} {a b source target : CellKey}

theorem targets_insert (m : EdgeMap) (source a : CellKey) (set : CellSet) :
    targets (m.insert source set) a = if source = a then set else targets m a := by
  unfold targets
  rw [Std.ExtTreeMap.getElem?_insert]
  simp only [Std.compare_eq_iff_eq]
  split <;> rfl

theorem targets_erase (m : EdgeMap) (source a : CellKey) :
    targets (m.erase source) a = if source = a then ∅ else targets m a := by
  unfold targets
  rw [Std.ExtTreeMap.getElem?_erase]
  simp only [Std.compare_eq_iff_eq]
  split <;> rfl

/-- An added edge is there, and so are the old ones. -/
theorem mem_targets_add :
    b ∈ targets (add m source target) a ↔ (a = source ∧ b = target) ∨ b ∈ targets m a := by
  rw [add, targets_insert]
  by_cases ha : source = a
  · subst ha
    simp only [if_true, Std.ExtTreeSet.mem_insert, Std.compare_eq_iff_eq, true_and]
    exact or_congr_left eq_comm
  · rw [if_neg ha]
    exact ⟨Or.inr, fun h => h.resolve_left fun h => ha h.1.symm⟩

/-- A removed edge is gone, and the others are still there. -/
theorem mem_targets_remove :
    b ∈ targets (remove m source target) a ↔ b ∈ targets m a ∧ ¬(a = source ∧ b = target) := by
  unfold remove
  cases hs : m[source]? with
  | none =>
    refine ⟨fun h => ⟨h, ?_⟩, And.left⟩
    intro h
    obtain ⟨rfl, -⟩ := h
    simp [targets, hs] at h
  | some set =>
    have hset : targets m source = set := by simp [targets, hs]
    have hother : ∀ m' : EdgeMap, targets m' a = (if source = a then set.erase target
        else targets m a) →
        (b ∈ targets m' a ↔ b ∈ targets m a ∧ ¬(a = source ∧ b = target)) := by
      intro m' h
      rw [h]
      by_cases ha : source = a
      · subst ha
        simp only [if_true, hset, Std.ExtTreeSet.mem_erase, ne_eq, Std.compare_eq_iff_eq,
          true_and]
        exact and_comm.trans (and_congr_right fun _ => not_congr eq_comm)
      · rw [if_neg ha]
        exact ⟨fun hb => ⟨hb, fun e => ha e.1.symm⟩, And.left⟩
    by_cases he : (set.erase target).isEmpty = true
    · simp only [he, if_true]
      refine hother _ ?_
      rw [targets_erase, Std.ExtTreeSet.isEmpty_iff.mp he]
    · simp only [he, Bool.false_eq_true, if_false]
      exact hother _ (targets_insert m source a _)

/-- No cell is kept without edges. -/
def Tight (m : EdgeMap) : Prop := ∀ a : CellKey, m[a]? ≠ some ∅

theorem tight_empty : Tight ∅ := by
  intro a
  simp

theorem Tight.insert (h : Tight m) {set : CellSet} (hset : set ≠ ∅) :
    Tight (m.insert source set) := by
  intro a
  rw [Std.ExtTreeMap.getElem?_insert]
  split
  · simpa using hset
  · exact h a

theorem Tight.erase (h : Tight m) : Tight (m.erase source) := by
  intro a
  rw [Std.ExtTreeMap.getElem?_erase]
  split
  · simp
  · exact h a

theorem Tight.add (h : Tight m) : Tight (add m source target) :=
  h.insert Std.ExtTreeSet.insert_ne_empty

theorem Tight.remove (h : Tight m) : Tight (remove m source target) := by
  unfold EdgeMap.remove
  cases m[source]? with
  | none => exact h
  | some set =>
    by_cases he : (set.erase target).isEmpty = true
    · simp only [he, if_true]
      exact h.erase
    · simp only [he, Bool.false_eq_true, if_false]
      exact h.insert fun e => he (Std.ExtTreeSet.isEmpty_iff.mpr e)

/-- What is kept for a cell of a tight map, read off its targets. -/
theorem Tight.getElem?_eq (h : Tight m) (a : CellKey) :
    m[a]? = if targets m a = ∅ then none else some (targets m a) := by
  cases ha : m[a]? with
  | none => simp [targets, ha]
  | some set =>
    have hne : set ≠ ∅ := fun e => h a (by rw [ha, e])
    have ht : targets m a = set := by simp [targets, ha]
    rw [ht, if_neg hne]

/-- The keys of a tight map are the cells that have edges. -/
theorem Tight.encard_targets (h : Tight m) : {a | targets m a ≠ ∅}.encard = m.size := by
  rw [← Std.ExtTreeMap.length_keys]
  refine encard_eq_length Std.ExtTreeMap.nodup_keys fun a => ?_
  rw [Std.ExtTreeMap.mem_keys, Std.ExtTreeMap.mem_iff_isSome_getElem?, h.getElem?_eq]
  by_cases ha : targets m a = ∅ <;> simp [ha]

/-- **A tight map is known by its targets.** -/
theorem ext_targets {m' : EdgeMap} (h : Tight m) (h' : Tight m')
    (heq : ∀ a, targets m a = targets m' a) : m = m' := by
  refine Std.ExtTreeMap.ext_getElem? fun a => ?_
  rw [h.getElem?_eq, h'.getElem?_eq, heq]

end EdgeMap

/-! ## 2. Both directions -/

namespace Graph

variable {g : Graph} {a b c cell p : CellKey}

theorem mem_precedents_add :
    a ∈ (g.addDependency p c).precedents b ↔ (b = c ∧ a = p) ∨ a ∈ g.precedents b :=
  EdgeMap.mem_targets_add

theorem mem_dependents_add :
    a ∈ (g.addDependency p c).dependents b ↔ (b = p ∧ a = c) ∨ a ∈ g.dependents b :=
  EdgeMap.mem_targets_add

theorem precedents_removePrecedents :
    (g.removePrecedents cell).precedents b = if cell = b then ∅ else g.precedents b :=
  EdgeMap.targets_erase _ _ _

/-- The readers that are left after some edges to `cell` were removed. -/
theorem mem_targets_removeAll (ps : List CellKey) (m : EdgeMap) :
    a ∈ EdgeMap.targets (ps.foldl (fun m p => EdgeMap.remove m p cell) m) b ↔
      a ∈ EdgeMap.targets m b ∧ ¬(b ∈ ps ∧ a = cell) := by
  induction ps generalizing m with
  | nil => simp
  | cons q ps ih =>
    rw [List.foldl_cons, ih, EdgeMap.mem_targets_remove, and_assoc, List.mem_cons]
    refine and_congr_right fun _ => ?_
    rw [← not_or, or_and_right]

theorem mem_dependents_removePrecedents :
    a ∈ (g.removePrecedents cell).dependents b ↔
      a ∈ g.dependents b ∧ ¬(b ∈ g.precedents cell ∧ a = cell) := by
  rw [← Std.ExtTreeSet.mem_toList (t := g.precedents cell)]
  exact mem_targets_removeAll _ _

/-- Each direction lists exactly the edges of the other one. -/
def Mirrored (g : Graph) : Prop := ∀ a b, a ∈ g.precedents b ↔ b ∈ g.dependents a

/-- Neither direction keeps a cell without edges. -/
def Tight (g : Graph) : Prop := EdgeMap.Tight g.readers ∧ EdgeMap.Tight g.sources

theorem mirrored_empty : Mirrored {} := by
  intro a b
  simp [precedents, dependents, EdgeMap.targets]

theorem tight_empty : Tight {} := ⟨EdgeMap.tight_empty, EdgeMap.tight_empty⟩

theorem Mirrored.addDependency (h : g.Mirrored) : (g.addDependency p c).Mirrored := by
  intro a b
  rw [mem_precedents_add, mem_dependents_add, h a b, and_comm]

theorem Mirrored.removePrecedents (h : g.Mirrored) : (g.removePrecedents cell).Mirrored := by
  intro a b
  rw [precedents_removePrecedents, mem_dependents_removePrecedents, ← h a b]
  by_cases hb : cell = b
  · subst hb
    simp
  · rw [if_neg hb]
    exact ⟨fun ha => ⟨ha, fun e => hb e.2.symm⟩, And.left⟩

theorem Tight.addDependency (h : g.Tight) : (g.addDependency p c).Tight := ⟨h.1.add, h.2.add⟩

theorem Tight.removePrecedents (h : g.Tight) : (g.removePrecedents cell).Tight := by
  refine ⟨?_, h.2.erase⟩
  have hfold : ∀ (ps : List CellKey) (m : EdgeMap), EdgeMap.Tight m →
      EdgeMap.Tight (ps.foldl (fun m p => EdgeMap.remove m p cell) m) := by
    intro ps
    induction ps with
    | nil => exact fun m hm => hm
    | cons q ps ih => exact fun m hm => ih _ hm.remove
  exact hfold _ _ h.1

/-- Adding edges one after another keeps what adding one edge keeps. -/
theorem foldl_addDependency_induction {P : Graph → Prop}
    (step : ∀ g p, P g → P (g.addDependency p cell)) (ps : List CellKey) (h : P g) :
    P (ps.foldl (fun g p => g.addDependency p cell) g) := by
  induction ps generalizing g with
  | nil => exact h
  | cons q ps ih => exact ih (step _ _ h)

theorem Mirrored.setPrecedents (h : g.Mirrored) (ps : List CellKey) :
    (g.setPrecedents cell ps).Mirrored :=
  foldl_addDependency_induction (fun _ _ => Mirrored.addDependency) ps h.removePrecedents

theorem Tight.setPrecedents (h : g.Tight) (ps : List CellKey) : (g.setPrecedents cell ps).Tight :=
  foldl_addDependency_induction (fun _ _ => Tight.addDependency) ps h.removePrecedents

theorem mem_precedents_foldl_add (ps : List CellKey) (g : Graph) :
    a ∈ (ps.foldl (fun g p => g.addDependency p cell) g).precedents b ↔
      (b = cell ∧ a ∈ ps) ∨ a ∈ g.precedents b := by
  induction ps generalizing g with
  | nil => simp
  | cons q ps ih =>
    rw [List.foldl_cons, ih, mem_precedents_add, List.mem_cons, and_or_left, or_left_comm,
      or_assoc]

/-- **What a cell reads is replaced, and what the others read stays.** -/
theorem mem_precedents_setPrecedents (ps : List CellKey) :
    a ∈ (g.setPrecedents cell ps).precedents b ↔
      if cell = b then a ∈ ps else a ∈ g.precedents b := by
  unfold setPrecedents
  rw [mem_precedents_foldl_add, precedents_removePrecedents]
  by_cases hb : cell = b
  · subst hb
    simp
  · simp only [if_neg hb, Ne.symm hb, false_and, false_or]

/-- **A graph that is tight and mirrored is known by what its cells read.** -/
theorem ext_precedents {g' : Graph} (hm : g.Mirrored) (hm' : g'.Mirrored) (ht : g.Tight)
    (ht' : g'.Tight) (heq : ∀ a, g.precedents a = g'.precedents a) : g = g' := by
  have hsources : g.sources = g'.sources := EdgeMap.ext_targets ht.2 ht'.2 heq
  have hreaders : g.readers = g'.readers := by
    refine EdgeMap.ext_targets ht.1 ht'.1 fun a => Std.ExtTreeSet.ext_mem fun b => ?_
    have h : b ∈ g.dependents a ↔ b ∈ g'.dependents a := by
      rw [← hm a b, ← hm' a b, heq]
    exact h
  cases g
  cases g'
  simp_all

/-! ## 3. Graphs that can be built -/

/-- One operation on a graph. -/
inductive Change where
  /-- Note that one cell reads another one. -/
  | add (precedent dependent : CellKey)
  /-- Put other cells in place of what a cell reads. -/
  | set (cell : CellKey) (precedents : List CellKey)
  /-- Forget everything that a cell reads. -/
  | remove (cell : CellKey)
  /-- Forget everything. -/
  | clear

/-- The graph after an operation. -/
def Change.apply (g : Graph) : Change → Graph
  | .add precedent dependent => g.addDependency precedent dependent
  | .set cell precedents => g.setPrecedents cell precedents
  | .remove cell => g.removePrecedents cell
  | .clear => {}

/-- The graph that some operations build from nothing. -/
def built (changes : List Change) : Graph := changes.foldl Change.apply {}

theorem Mirrored.change (h : g.Mirrored) (change : Change) : (change.apply g).Mirrored := by
  cases change with
  | add precedent dependent => exact h.addDependency
  | set cell precedents => exact h.setPrecedents precedents
  | remove cell => exact h.removePrecedents
  | clear => exact mirrored_empty

theorem Tight.change (h : g.Tight) (change : Change) : (change.apply g).Tight := by
  cases change with
  | add precedent dependent => exact h.addDependency
  | set cell precedents => exact h.setPrecedents precedents
  | remove cell => exact h.removePrecedents
  | clear => exact tight_empty

/-- What the empty graph has and every operation keeps, every graph that can be built has. -/
theorem built_induction {P : Graph → Prop} (empty : P {})
    (change : ∀ g (change : Change), P g → P (change.apply g)) (changes : List Change) :
    P (built changes) := by
  have hrun : ∀ (changes : List Change) (g : Graph), P g → P (changes.foldl Change.apply g) := by
    intro changes
    induction changes with
    | nil => exact fun _ h => h
    | cons c changes ih => exact fun g h => ih _ (change g c h)
  exact hrun changes {} empty

/-- Every graph that can be built keeps its edges in both directions. -/
theorem mirrored_built (changes : List Change) : (built changes).Mirrored :=
  built_induction mirrored_empty (fun _ change h => h.change change) changes

/-- No graph that can be built keeps a cell without edges. -/
theorem tight_built (changes : List Change) : (built changes).Tight :=
  built_induction tight_empty (fun _ change h => h.change change) changes

/-- A tight graph counts the cells that read another one. -/
theorem Tight.encard_reading (h : g.Tight) :
    {c | ∃ p, p ∈ g.precedents c}.encard = g.formulaCount := by
  rw [formulaCount, ← h.2.encard_targets]
  refine congrArg Set.encard (Set.ext fun c => ?_)
  have hnone := Std.ExtTreeSet.eq_empty_iff_forall_not_mem (t := g.precedents c)
  exact ((not_congr hnone).trans not_forall_not).symm

/-- **The edges of a graph that can be built**: a cell is among those that another one reads
    exactly if that one is among its readers, neither direction keeps a cell without edges, so that
    the count is the number of cells that read something, and putting other cells in place of what
    a cell reads makes these what it reads and leaves what all others read. -/
theorem edges_built (changes : List Change) :
    (∀ p c, p ∈ (built changes).precedents c ↔ c ∈ (built changes).dependents p) ∧
    (∀ c : CellKey, (built changes).sources[c]? ≠ some ∅ ∧ (built changes).readers[c]? ≠ some ∅) ∧
    {c | ∃ p, p ∈ (built changes).precedents c}.encard = (built changes).formulaCount ∧
    ∀ cell precedents c p, p ∈ ((built changes).setPrecedents cell precedents).precedents c ↔
      if cell = c then p ∈ precedents else p ∈ (built changes).precedents c := by
  have htight := tight_built changes
  refine ⟨mirrored_built changes, fun c => ⟨htight.2 c, htight.1 c⟩, htight.encard_reading, ?_⟩
  intro cell precedents c p
  exact mem_precedents_setPrecedents precedents

end Graph

end Gridcalc
