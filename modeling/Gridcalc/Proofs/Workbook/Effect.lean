import Mathlib.Data.Set.Card
import Gridcalc.Proofs.Workbook.Inputs
import Gridcalc.Proofs.Workbook.Reached

/-!
# What a pass changes

A pass stores values one after another. Its stores are listed here with the values, so that it can
be said how often a cell is stored and what is left alone.

* `taskStores`, `storeAll`: the stores of some tasks, and what they make of the sheets;
  `storeAll_taskStores` says that this is what the tasks do;
* `stored_foldl`: the two counters of a pass count its stores;
* `Workbook.Dirty`: the cells that a pass takes up, by what reads what;
* `Workbook.PassEffect`: all that a pass does to the cells, the batches and the report;
* `Workbook.WellFormed.recalculate_effect`: every pass does this, whatever it starts from.

Nothing here depends on the order of the schedule: that its groups hold every cell once is enough.
-/

namespace Gridcalc

open Relation

/-! ## 1. Stores -/

/-- What tasks store, one after another. -/
def taskStores (state : CalcState) (ambient : Ambient) (sheets : List Worksheet) :
    List Task → List (CellKey × Value)
  | [] => []
  | t :: tasks =>
    match state.formulas[t.key]? with
    | none => taskStores state ambient sheets tasks
    | some root =>
      let v := taskValue ambient sheets root t
      (t.key, v) :: taskStores state ambient (Workbook.storeResult sheets t.key v) tasks

/-- The sheets with values stored one after another. -/
def storeAll (sheets : List Worksheet) (stores : List (CellKey × Value)) : List Worksheet :=
  stores.foldl (fun sheets store => Workbook.storeResult sheets store.1 store.2) sheets

section Stores

variable {state : CalcState} {ambient : Ambient} {sheets : List Worksheet} {k : CellKey}

/-- Tasks do nothing but what they store. -/
theorem storeAll_taskStores (tasks : List Task) :
    storeAll sheets (taskStores state ambient sheets tasks) =
      performTasks state ambient sheets tasks := by
  induction tasks generalizing sheets with
  | nil => rfl
  | cons t tasks ih =>
    have hcons : performTasks state ambient sheets (t :: tasks) =
        performTasks state ambient (performTask state ambient sheets t) tasks := rfl
    rw [hcons, taskStores, performTask]
    cases state.formulas[t.key]? with
    | none => exact ih
    | some root => exact ih

/-- A task stores exactly if its cell holds a known formula. -/
theorem map_fst_taskStores (tasks : List Task) :
    (taskStores state ambient sheets tasks).map Prod.fst =
      (tasks.map Task.key).filter state.formulas.contains := by
  induction tasks generalizing sheets with
  | nil => rfl
  | cons t tasks ih =>
    rw [taskStores, List.map_cons, List.filter_cons,
      Std.ExtTreeMap.contains_eq_isSome_getElem?]
    cases state.formulas[t.key]? with
    | none => exact ih
    | some root => exact congrArg (t.key :: ·) ih

/-- What is not stored is left alone. -/
theorem cellIn_storeAll_of_not {stores : List (CellKey × Value)}
    (h : k ∉ stores.map Prod.fst) : cellIn (storeAll sheets stores) k = cellIn sheets k := by
  induction stores generalizing sheets with
  | nil => rfl
  | cons store stores ih =>
    rw [List.map_cons, List.mem_cons, not_or] at h
    refine (ih h.2).trans ?_
    rw [cellIn_storeResult, if_neg (Ne.symm h.1)]

/-- What is stored once is what the cell shows in the end. -/
theorem valueIn_storeAll {stores : List (CellKey × Value)} (hn : (stores.map Prod.fst).Nodup)
    {v : Value} (hkv : (k, v) ∈ stores) (hk : cellIn sheets k ≠ none) :
    valueIn (storeAll sheets stores) k = v := by
  induction stores generalizing sheets with
  | nil => cases hkv
  | cons store stores ih =>
    rw [List.map_cons, List.nodup_cons] at hn
    rcases List.mem_cons.mp hkv with rfl | hkv
    · have hlast : cellIn (storeAll sheets ((k, v) :: stores)) k =
          cellIn (Workbook.storeResult sheets k v) k := cellIn_storeAll_of_not hn.1
      rw [valueIn, hlast]
      exact valueIn_storeResult_self hk
    · refine ih hn.2 hkv ?_
      rw [cellIn_storeResult]
      split
      · simpa using hk
      · exact hk

end Stores

/-! ## 2. Counters -/

namespace Workbook

/-- How many values a pass has stored so far, by its own count. -/
def PassState.stored (s : PassState) : Nat := s.calculated + s.circular

section Counters

variable {state : CalcState} {ambient : Ambient}

theorem stored_evaluateCell (s : PassState) (key : CellKey) :
    (evaluateCell state ambient s key).stored =
      s.stored + if state.formulas.contains key then 1 else 0 := by
  unfold evaluateCell
  rw [Std.ExtTreeMap.contains_eq_isSome_getElem?]
  cases state.formulas[key]? with
  | none => rfl
  | some root => exact Nat.add_right_comm _ 1 _

theorem stored_markCircular (s : PassState) (key : CellKey) :
    (markCircular state s key).stored =
      s.stored + if state.formulas.contains key then 1 else 0 := by
  unfold markCircular
  split <;> rfl

theorem stored_evaluateGroup (s : PassState) (G : CalcGroup) :
    (evaluateGroup state ambient s G).stored =
      s.stored + (G.cells.filter state.formulas.contains).length := by
  have hstep : ∀ (s : PassState) (key : CellKey),
      ((if G.cyclic then markCircular state else evaluateCell state ambient) s key).stored =
        s.stored + if state.formulas.contains key then 1 else 0 := by
    intro s key
    cases G.cyclic with
    | true => exact stored_markCircular s key
    | false => exact stored_evaluateCell s key
  unfold evaluateGroup
  induction G.cells generalizing s with
  | nil => rfl
  | cons key cells ih =>
    rw [List.foldl_cons, ih, hstep, List.filter_cons]
    split
    · rw [List.length_cons]
      omega
    · rfl

/-- **The counters count the known formulas of the groups.** -/
theorem stored_foldl (groups : List CalcGroup) (s : PassState) :
    (groups.foldl (evaluateGroup state ambient) s).stored =
      s.stored + ((groups.flatMap CalcGroup.cells).filter state.formulas.contains).length := by
  induction groups generalizing s with
  | nil => rfl
  | cons G groups ih =>
    rw [List.foldl_cons, ih, stored_evaluateGroup, List.flatMap_cons, List.filter_append,
      List.length_append, Nat.add_assoc]

end Counters

/-! ## 3. The effect of a pass -/

variable {wb : Workbook} {seeds : List CellKey} {k : CellKey}

/-- What a pass stores, in order. -/
def passStores (wb : Workbook) (seeds : List CellKey) : List (CellKey × Value) :=
  taskStores wb.calcState wb.ambient wb.sheets (wb.passTasks seeds)

/-- The cells that a pass takes up: those it is given, the volatile ones if they are evaluated every
    time, and all that reads one of these, directly or through others. -/
def Dirty (wb : Workbook) (seeds : List CellKey) (k : CellKey) : Prop :=
  ∃ s, (s ∈ seeds ∨ wb.evaluatesVolatile = true ∧ s ∈ wb.calcState.volatile) ∧
    ReflTransGen wb.calcState.graph.Reads k s

/-- The formulas that a pass evaluates. -/
def evaluated (wb : Workbook) (seeds : List CellKey) : Set CellKey :=
  {k | wb.Dirty seeds k ∧ formulaIn wb.sheets k ≠ none ∧ wb.isUpdating k.sheet = false}

/-- The cells that a pass sets aside for open batches. -/
def setAside (wb : Workbook) (seeds : List CellKey) : Set CellKey :=
  {k | wb.Dirty seeds k ∧ wb.isUpdating k.sheet = true}

/-- What a pass does. The number of stores in the report is the pass's own count. -/
structure PassEffect (wb : Workbook) (seeds : List CellKey) (report : PassReport)
    (after : Workbook) : Prop where
  /-- The sheets change by the stores only. -/
  sheets : after.sheets = storeAll wb.sheets (wb.passStores seeds)
  /-- Nothing is stored twice. -/
  once : ((wb.passStores seeds).map Prod.fst).Nodup
  /-- What is stored is exactly what is to be evaluated. -/
  stored : ∀ k, k ∈ (wb.passStores seeds).map Prod.fst ↔ k ∈ wb.evaluated seeds
  /-- A stored value is shown. -/
  shown : ∀ k v, (k, v) ∈ wb.passStores seeds → valueIn after.sheets k = v
  /-- Every other cell is the same as before. -/
  others : ∀ k, k ∉ wb.evaluated seeds → cellIn after.sheets k = cellIn wb.sheets k
  /-- Names, sizes, hidden rows, formula texts, literals and styles are the same as before. -/
  inputs : SameInputs after.sheets wb.sheets
  /-- What is set aside is added to the batch of its sheet, and nothing else happens to any. -/
  batches : ∀ i, (after.batchAt i).isOpen = (wb.batchAt i).isOpen ∧
    ∀ k, k ∈ (after.batchAt i).dirty ↔
      k ∈ (wb.batchAt i).dirty ∨ k.sheet = i ∧ k ∈ wb.setAside seeds
  /-- Apart from sheets and batches nothing changes. -/
  beside : after = { wb with tabs := after.tabs }
  /-- Each store is counted, as evaluated or as circular. -/
  counted : (wb.evaluated seeds).encard = (report.calculated + report.circular : Nat)
  /-- Each cell set aside is counted. -/
  counted_aside : (wb.setAside seeds).encard = report.deferred

theorem mem_dirtyCells (hm : wb.calcState.graph.Mirrored) :
    k ∈ wb.dirtyCells seeds ↔ wb.Dirty seeds k := by
  unfold dirtyCells Dirty
  rw [Graph.mem_dirtyClosure hm]
  refine exists_congr fun s => and_congr_left fun _ => ?_
  unfold passSeeds
  split
  · rename_i hv
    rw [List.mem_append, Std.ExtTreeSet.mem_toList]
    simp only [hv, true_and]
  · rename_i hv
    simp only [hv, Bool.false_eq_true, false_and, or_false]

theorem encard_eq_size {s : Set CellKey} {cells : CellSet} (h : ∀ k, k ∈ cells ↔ k ∈ s) :
    s.encard = cells.size := by
  rw [← Std.ExtTreeSet.length_toList]
  refine encard_eq_length (Graph.nodup_toList cells) fun k => ?_
  rw [Std.ExtTreeSet.mem_toList, h]

theorem map_key_passTasks (wb : Workbook) (seeds : List CellKey) :
    (wb.passTasks seeds).map Task.key =
      (wb.calcState.graph.schedule (wb.readyCells seeds)).flatMap CalcGroup.cells :=
  CalcGroup.map_key_tasks _

/-- What a pass stores are the formulas of its schedule. -/
theorem map_fst_passStores (wb : Workbook) (seeds : List CellKey) :
    (wb.passStores seeds).map Prod.fst =
      ((wb.calcState.graph.schedule (wb.readyCells seeds)).flatMap CalcGroup.cells).filter
        wb.calcState.formulas.contains := by
  rw [passStores, map_fst_taskStores, map_key_passTasks]

theorem nodup_passStores (hm : wb.calcState.graph.Mirrored) (seeds : List CellKey) :
    ((wb.passStores seeds).map Prod.fst).Nodup := by
  rw [map_fst_passStores]
  exact (Graph.schedule_isSchedule hm (wb.readyCells seeds)).nodup.filter _

theorem WellFormed.mem_passStores (hw : wb.WellFormed) (hm : wb.calcState.graph.Mirrored) :
    k ∈ (wb.passStores seeds).map Prod.fst ↔ k ∈ wb.evaluated seeds := by
  rw [map_fst_passStores, List.mem_filter, (hw.known k).contains_iff, List.mem_flatMap,
    ← (Graph.schedule_isSchedule hm (wb.readyCells seeds)).covers k, mem_readyCells,
    mem_dirtyCells hm, evaluated, Set.mem_ofPred_eq, and_right_comm, and_assoc]

/-- The counters of a pass count its stores. -/
theorem stored_recalculate (wb : Workbook) (seeds : List CellKey) :
    (wb.recalculate seeds).1.calculated + (wb.recalculate seeds).1.circular =
      (wb.passStores seeds).length := by
  rw [← List.length_map Prod.fst, map_fst_passStores]
  have h := @stored_foldl wb.calcState wb.ambient
    (wb.calcState.graph.schedule (wb.readyCells seeds)) { sheets := wb.sheets }
  exact h.trans (Nat.zero_add _)

theorem WellFormed.passEffect (hw : wb.WellFormed) (hm : wb.calcState.graph.Mirrored)
    (seeds : List CellKey) :
    PassEffect wb seeds (wb.recalculate seeds).1 (wb.recalculate seeds).2 := by
  have hsheets : (wb.recalculate seeds).2.sheets = storeAll wb.sheets (wb.passStores seeds) := by
    rw [recalculate_sheets]
    exact (storeAll_taskStores _).symm
  have hstored : ∀ k, k ∈ (wb.passStores seeds).map Prod.fst ↔ k ∈ wb.evaluated seeds :=
    fun _ => hw.mem_passStores hm
  have hwaiting : ∀ k, k ∈ wb.waitingCells seeds ↔ k ∈ wb.setAside seeds := fun k => by
    rw [mem_waitingCells, mem_dirtyCells hm, setAside, Set.mem_ofPred_eq]
  refine ⟨hsheets, nodup_passStores hm seeds, hstored, fun k v hkv => ?_, fun k hk => ?_,
    sameInputs_recalculate hw seeds, fun i => ?_, rfl, ?_, encard_eq_size hwaiting⟩
  · rw [hsheets]
    refine valueIn_storeAll (nodup_passStores hm seeds) hkv (cellIn_ne_none ?_)
    exact ((hstored k).mp (List.mem_map_of_mem hkv)).2.1
  · rw [hsheets]
    exact cellIn_storeAll_of_not fun hmem => hk ((hstored k).mp hmem)
  · obtain ⟨hopen, hdirty⟩ := recalculate_batchAt wb seeds i
    refine ⟨hopen, fun k => ?_⟩
    rw [hdirty, hwaiting]
  · rw [stored_recalculate, ← List.length_map Prod.fst]
    exact encard_eq_length (nodup_passStores hm seeds) hstored

/-! ## 4. Evaluating everything -/

/-- What a pass over all formulas takes up are the formulas. -/
theorem WellFormed.dirty_all_iff (hw : wb.WellFormed) :
    wb.Dirty wb.calcState.formulas.keys k ↔ formulaIn wb.sheets k ≠ none := by
  have hkeys : ∀ s, s ∈ wb.calcState.formulas.keys ↔ formulaIn wb.sheets s ≠ none := fun s => by
    rw [Std.ExtTreeMap.mem_keys, ← Std.ExtTreeMap.contains_iff_mem, (hw.known s).contains_iff]
  constructor
  · intro ⟨s, hs, hks⟩
    rcases ReflTransGen.cases_head hks with rfl | ⟨b, hkb, -⟩
    · rcases hs with hs | ⟨-, hs⟩
      · exact (hkeys k).mp hs
      · obtain ⟨e, htree, -⟩ := (hw.known k).volatile.mp hs
        obtain ⟨text, htext, -⟩ := Option.bind_eq_some_iff.mp htree
        simp [htext]
    · exact formulaIn_of_reads hw hkb
  · intro hk
    exact ⟨k, .inl ((hkeys k).mpr hk), .refl⟩

/-- Every formula is evaluated or set aside by a pass over all formulas, and not both. -/
theorem WellFormed.formulas_recalculateAll (hw : wb.WellFormed)
    (hm : wb.calcState.graph.Mirrored) :
    wb.recalculateAll.1.formulas =
      wb.recalculateAll.1.calculated + wb.recalculateAll.1.circular +
        wb.recalculateAll.1.deferred := by
  have heffect := hw.passEffect hm wb.calcState.formulas.keys
  have hall : (wb.evaluated wb.calcState.formulas.keys ∪
      wb.setAside wb.calcState.formulas.keys).encard = wb.calcState.formulas.size := by
    rw [← Std.ExtTreeMap.length_keys]
    refine encard_eq_length Std.ExtTreeMap.nodup_keys fun k => ?_
    rw [Std.ExtTreeMap.mem_keys, ← Std.ExtTreeMap.contains_iff_mem, (hw.known k).contains_iff,
      Set.mem_union, evaluated, setAside, Set.mem_ofPred_eq, Set.mem_ofPred_eq, hw.dirty_all_iff]
    cases wb.isUpdating k.sheet <;> simp
  have hapart : Disjoint (wb.evaluated wb.calcState.formulas.keys)
      (wb.setAside wb.calcState.formulas.keys) := by
    refine Set.disjoint_left.mpr fun k hk hk' => ?_
    exact absurd hk'.2 (by simp [hk.2.2])
  rw [Set.encard_union_eq hapart, heffect.counted, heffect.counted_aside] at hall
  exact_mod_cast hall.symm

/-- **A pass touches what it should, once.** From any cells it stores a value into each formula that
    is downstream of them on a sheet without an open batch, once; it sets aside what is downstream
    on the other sheets, changes nothing else, and counts both. A pass over all formulas accounts
    for every one of them. -/
theorem WellFormed.recalculate_effect (hw : wb.WellFormed) (hm : wb.calcState.graph.Mirrored) :
    (∀ seeds, PassEffect wb seeds (wb.recalculate seeds).1 (wb.recalculate seeds).2) ∧
    wb.recalculateAll.1.formulas =
      wb.recalculateAll.1.calculated + wb.recalculateAll.1.circular +
        wb.recalculateAll.1.deferred :=
  ⟨hw.passEffect hm, hw.formulas_recalculateAll hm⟩

/-- The cell that refers to itself is stored once by a pass from it. -/
theorem recalculate_effect_selfReading :
    (selfReading.passStores [⟨0, 0, 0⟩]).map Prod.fst = [⟨0, 0, 0⟩] ∧
      (selfReading.recalculate [⟨0, 0, 0⟩]).1.deferred = 0 := by
  have hsound := reached_selfReading.sound
  have heffect := (hsound.wellFormed.recalculate_effect hsound.consistent.neat.mirrored).1
    [⟨0, 0, 0⟩]
  have hmem : ∀ k, k ∈ (selfReading.passStores [⟨0, 0, 0⟩]).map Prod.fst ↔ k ∈ [⟨0, 0, 0⟩] := by
    intro k
    rw [heffect.stored, List.mem_singleton, evaluated, Set.mem_ofPred_eq, formulaIn_selfReading]
    constructor
    · intro ⟨_, hk, _⟩
      by_contra hne
      exact hk (if_neg (Ne.symm hne))
    · rintro rfl
      exact ⟨⟨_, .inl List.mem_cons_self, .refl⟩, by simp, isUpdating_selfReading 0⟩
  refine ⟨List.perm_singleton.mp ?_, ?_⟩
  · exact (List.perm_ext_iff_of_nodup heffect.once (List.nodup_singleton _)).mpr hmem
  · have hnone : selfReading.setAside [⟨0, 0, 0⟩] = ∅ := by
      refine Set.eq_empty_of_forall_notMem fun k hk => ?_
      exact absurd hk.2 (by simp [isUpdating_selfReading])
    have hcount := heffect.counted_aside
    rw [hnone, Set.encard_empty] at hcount
    exact_mod_cast hcount.symm

end Workbook

end Gridcalc
