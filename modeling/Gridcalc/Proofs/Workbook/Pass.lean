import Gridcalc.Proofs.Dependency.Groups
import Gridcalc.Proofs.Workbook.Reading

/-!
# What a pass does to the sheets

A pass stores one value after another. The groups of the schedule are flattened into a list of
tasks, each of which stores one value.

* `cellIn_storeResult`, `sameFrames_storeResult`: storing a value changes the value of one cell;
* `Task`, `performTask`, `performTasks`: the tasks of a schedule; `foldl_evaluateGroup_sheets` says
  that they are what the groups do;
* `performTasks_split`: the value of a cell is the one that its last task stored;
* `Graph.IsSchedule.split_tasks`: where the task of a cell stands in a schedule;
* `recalculate_sheets`, `recalculate_batchAt`: the sheets and the batches after a pass.
-/

namespace Gridcalc

open Relation

/-! ## 1. Storing one value -/

section StoreResult

variable {sheets : List Worksheet} {key k : CellKey} {v : Value}

theorem cellIn_storeResult (sheets : List Worksheet) (key : CellKey) (v : Value) (k : CellKey) :
    cellIn (Workbook.storeResult sheets key v) k =
      if key = k then (cellIn sheets k).map (·.withValue v) else cellIn sheets k := by
  obtain ⟨i, row, col⟩ := key
  obtain ⟨j, r, c⟩ := k
  unfold cellIn Workbook.storeResult
  simp only [List.getElem?_modify, CellKey.mk.injEq]
  cases hws : sheets[j]? with
  | none => simp
  | some ws =>
    by_cases hi : i = j
    · subst hi
      simp only [if_true, Option.map_eq_map, Option.map_some, Option.bind_some, true_and]
      exact CellStore.get?_modify ws.store row col r c (·.withValue v)
    · simp [hi]

theorem sameFrames_storeResult (sheets : List Worksheet) (key : CellKey) (v : Value) :
    SameFrames (Workbook.storeResult sheets key v) sheets := by
  refine sameFrames_iff.mpr fun i => ?_
  unfold Workbook.storeResult
  rw [List.getElem?_modify]
  cases sheets[i]? with
  | none => rfl
  | some ws =>
    simp only [Option.map_eq_map, Option.map_some]
    split
    · simp only [Worksheet.frame, Worksheet.setCached, CellStore.hidden_modify]
    · rfl

theorem formulaIn_storeResult (sheets : List Worksheet) (key : CellKey) (v : Value)
    (k : CellKey) : formulaIn (Workbook.storeResult sheets key v) k = formulaIn sheets k := by
  unfold formulaIn
  rw [cellIn_storeResult]
  split
  · cases cellIn sheets k <;> rfl
  · rfl

/-- A stored cell shows the value that was stored last. -/
theorem valueIn_storeResult_self (h : cellIn sheets key ≠ none) :
    valueIn (Workbook.storeResult sheets key v) key = v := by
  unfold valueIn
  rw [cellIn_storeResult, if_pos rfl]
  cases hc : cellIn sheets key with
  | none => exact absurd hc h
  | some cell => rfl

/-- Storing the value that a cell shows already changes nothing at all. -/
theorem storeResult_valueIn (sheets : List Worksheet) (key : CellKey) :
    Workbook.storeResult sheets key (valueIn sheets key) = sheets := by
  have hstore : ∀ ws : Worksheet, sheets[key.sheet]? = some ws →
      ws.setCached key.row key.col (valueIn sheets key) = ws := by
    intro ws hws
    have hcell : cellIn sheets key = ws.get? key.row key.col := cellIn_eq hws
    have hmodify : ws.store.modify key.row key.col (·.withValue (valueIn sheets key)) =
        ws.store := by
      unfold CellStore.modify
      cases hc : ws.store.get? key.row key.col with
      | none => rfl
      | some cell =>
        have hv : valueIn sheets key = cell.value := by
          rw [valueIn, hcell]
          exact congrArg (fun o : Option Cell => (o.map Cell.value).getD .empty) hc
        have hsame : cell.withValue (valueIn sheets key) = cell := by rw [hv]; rfl
        dsimp only
        rw [hsame]
        exact CellStore.put_get? hc
    simp only [Worksheet.setCached, hmodify]
  unfold Workbook.storeResult
  refine List.ext_getElem? fun i => ?_
  rw [List.getElem?_modify]
  by_cases hi : key.sheet = i
  · subst hi
    cases hws : sheets[key.sheet]? with
    | none => rfl
    | some ws => simp [hstore ws hws]
  · simp [hi]

end StoreResult

/-! ## 2. Tasks -/

/-- One step of a pass: a cell to be evaluated, or to be marked as lying on a circle. -/
structure Task where
  key : CellKey
  circular : Bool

/-- The tasks of a group. -/
def CalcGroup.tasks (G : CalcGroup) : List Task := G.cells.map fun key => ⟨key, G.cyclic⟩

/-- The place of a cell. -/
def placeOf (sheets : List Worksheet) (key : CellKey) (ambient : Ambient) : Context :=
  { sheets, sheet := key.sheet, row := key.row, col := key.col, ambient }

/-- The value that a task comes to. -/
def taskValue (ambient : Ambient) (sheets : List Worksheet) (root : Option Expr) (t : Task) :
    Value :=
  if t.circular then .error .circular else formulaValue (placeOf sheets t.key ambient) root

/-- Carries out a task, if the cell holds a formula. -/
def performTask (state : CalcState) (ambient : Ambient) (sheets : List Worksheet) (t : Task) :
    List Worksheet :=
  match state.formulas[t.key]? with
  | none => sheets
  | some root => Workbook.storeResult sheets t.key (taskValue ambient sheets root t)

/-- Carries out tasks one after another. -/
def performTasks (state : CalcState) (ambient : Ambient) (sheets : List Worksheet)
    (tasks : List Task) : List Worksheet :=
  tasks.foldl (performTask state ambient) sheets

section Tasks

variable {state : CalcState} {ambient : Ambient} {sheets : List Worksheet} {tasks : List Task}
  {k : CellKey}

theorem performTasks_append (front back : List Task) :
    performTasks state ambient sheets (front ++ back) =
      performTasks state ambient (performTasks state ambient sheets front) back :=
  List.foldl_append

theorem evaluateCell_sheets (s : Workbook.PassState) (key : CellKey) :
    (Workbook.evaluateCell state ambient s key).sheets =
      performTask state ambient s.sheets ⟨key, false⟩ := by
  unfold Workbook.evaluateCell performTask
  cases hf : state.formulas[key]? <;> rfl

theorem markCircular_sheets (s : Workbook.PassState) (key : CellKey) :
    (Workbook.markCircular state s key).sheets =
      performTask state ambient s.sheets ⟨key, true⟩ := by
  unfold Workbook.markCircular performTask
  rw [Std.ExtTreeMap.contains_eq_isSome_getElem?]
  cases hf : state.formulas[key]? <;> rfl

theorem evaluateGroup_sheets (s : Workbook.PassState) (G : CalcGroup) :
    (Workbook.evaluateGroup state ambient s G).sheets =
      performTasks state ambient s.sheets G.tasks := by
  unfold Workbook.evaluateGroup CalcGroup.tasks performTasks
  rw [List.foldl_map]
  induction G.cells generalizing s with
  | nil => rfl
  | cons key cells ih =>
    rw [List.foldl_cons, List.foldl_cons, ih]
    congr 1
    cases G.cyclic with
    | true => exact markCircular_sheets s key
    | false => exact evaluateCell_sheets s key

/-- **The groups of a schedule do what their tasks do.** -/
theorem foldl_evaluateGroup_sheets (groups : List CalcGroup) (s : Workbook.PassState) :
    (groups.foldl (Workbook.evaluateGroup state ambient) s).sheets =
      performTasks state ambient s.sheets (groups.flatMap CalcGroup.tasks) := by
  induction groups generalizing s with
  | nil => rfl
  | cons G groups ih =>
    rw [List.foldl_cons, ih, List.flatMap_cons, performTasks_append, evaluateGroup_sheets]

theorem sameFrames_performTask (t : Task) :
    SameFrames (performTask state ambient sheets t) sheets := by
  unfold performTask
  split
  · exact .refl sheets
  · exact sameFrames_storeResult _ _ _

theorem formulaIn_performTask (t : Task) :
    formulaIn (performTask state ambient sheets t) k = formulaIn sheets k := by
  unfold performTask
  split
  · rfl
  · exact formulaIn_storeResult _ _ _ _

theorem cellIn_performTask_of_ne {t : Task} (h : k ≠ t.key) :
    cellIn (performTask state ambient sheets t) k = cellIn sheets k := by
  unfold performTask
  split
  · rfl
  · rw [cellIn_storeResult, if_neg fun e => h e.symm]

/-- What one task keeps, all of them keep. -/
theorem performTasks_induction (P : List Worksheet → Prop) (h : P sheets)
    (step : ∀ sheets t, t ∈ tasks → P sheets → P (performTask state ambient sheets t)) :
    P (performTasks state ambient sheets tasks) := by
  induction tasks generalizing sheets with
  | nil => exact h
  | cons t tasks ih =>
    refine ih (step sheets t List.mem_cons_self h) fun sheets t' ht' => ?_
    exact step sheets t' (List.mem_cons_of_mem _ ht')

/-- What a sheet keeps when the value of a task is stored in it, the sheets keep in all tasks. -/
theorem forall_mem_performTasks {P : Worksheet → Prop} (h : ∀ ws ∈ sheets, P ws)
    (store : ∀ ws sheets root t, P ws →
      P (ws.setCached t.key.row t.key.col (taskValue ambient sheets root t))) :
    ∀ ws ∈ performTasks state ambient sheets tasks, P ws := by
  refine performTasks_induction (fun s => ∀ ws ∈ s, P ws) h fun sheets t _ h => ?_
  unfold performTask
  split
  · exact h
  · intro ws hws
    obtain ⟨i, hi⟩ := List.mem_iff_getElem?.mp hws
    rw [Workbook.storeResult, List.getElem?_modify] at hi
    obtain ⟨ws', hws', rfl⟩ := Option.map_eq_some_iff.mp hi
    have hkept := h ws' (List.mem_of_getElem? hws')
    split
    · exact store ws' _ _ t hkept
    · exact hkept

theorem sameFrames_performTasks :
    SameFrames (performTasks state ambient sheets tasks) sheets :=
  performTasks_induction (SameFrames · sheets) (.refl sheets) fun _ t _ h =>
    Eq.trans (sameFrames_performTask t) h

theorem formulaIn_performTasks (k : CellKey) :
    formulaIn (performTasks state ambient sheets tasks) k = formulaIn sheets k :=
  performTasks_induction (formulaIn · k = formulaIn sheets k) rfl fun _ t _ h =>
    (formulaIn_performTask t).trans h

/-- A cell without a task is left alone. -/
theorem cellIn_performTasks (h : ∀ t ∈ tasks, k ≠ t.key) :
    cellIn (performTasks state ambient sheets tasks) k = cellIn sheets k :=
  performTasks_induction (cellIn · k = cellIn sheets k) rfl fun _ _ ht hk =>
    (cellIn_performTask_of_ne (h _ ht)).trans hk

theorem cellIn_ne_none (h : formulaIn sheets k ≠ none) : cellIn sheets k ≠ none := by
  intro hn
  rw [formulaIn, hn] at h
  exact h rfl

/-- **The value of a formula cell** is the one that its last task came to. -/
theorem performTasks_split {front back : List Task} {t : Task} {root : Option Expr}
    (hroot : state.formulas[t.key]? = some root) (hf : formulaIn sheets t.key ≠ none)
    (hback : ∀ t' ∈ back, t.key ≠ t'.key) :
    valueIn (performTasks state ambient sheets (front ++ t :: back)) t.key =
      taskValue ambient (performTasks state ambient sheets front) root t := by
  rw [performTasks_append]
  let before := performTasks state ambient sheets front
  have hstep : performTasks state ambient before (t :: back) =
      performTasks state ambient (Workbook.storeResult before t.key
        (taskValue ambient before root t)) back := by
    unfold performTasks
    rw [List.foldl_cons, performTask, hroot]
  have hbefore : formulaIn before t.key ≠ none := by
    rw [formulaIn_performTasks]
    exact hf
  rw [valueIn, hstep, cellIn_performTasks hback]
  exact valueIn_storeResult_self (cellIn_ne_none hbefore)

/-- A task whose value the cell shows already changes nothing. -/
theorem performTask_eq_self {t : Task} (h : ∀ root, state.formulas[t.key]? = some root →
    taskValue ambient sheets root t = valueIn sheets t.key) :
    performTask state ambient sheets t = sheets := by
  unfold performTask
  cases hroot : state.formulas[t.key]? with
  | none => rfl
  | some root =>
    dsimp only
    rw [h root hroot]
    exact storeResult_valueIn sheets t.key

/-- **Tasks about different cells change nothing together** only if every one of them comes to the
    value that its cell shows. -/
theorem taskValue_of_performTasks_eq_self (hnodup : (tasks.map Task.key).Nodup)
    (hstored : ∀ t ∈ tasks, state.formulas[t.key]? ≠ none → formulaIn sheets t.key ≠ none)
    (hsame : performTasks state ambient sheets tasks = sheets) :
    ∀ t ∈ tasks, ∀ root, state.formulas[t.key]? = some root →
      taskValue ambient sheets root t = valueIn sheets t.key := by
  induction tasks with
  | nil => simp
  | cons t tasks ih =>
    rw [List.map_cons, List.nodup_cons] at hnodup
    have hlater : ∀ t' ∈ tasks, t.key ≠ t'.key := fun t' ht' e =>
      hnodup.1 (e ▸ List.mem_map_of_mem ht')
    have hfirst : ∀ root, state.formulas[t.key]? = some root →
        taskValue ambient sheets root t = valueIn sheets t.key := by
      intro root hroot
      have hf := hstored t List.mem_cons_self (by simp [hroot])
      have hsplit : valueIn (performTasks state ambient sheets ([] ++ t :: tasks)) t.key =
          taskValue ambient sheets root t := performTasks_split hroot hf hlater
      exact hsplit.symm.trans (congrArg (valueIn · t.key) hsame)
    have hrest : performTasks state ambient sheets tasks = sheets := by
      have hcons : performTasks state ambient sheets (t :: tasks) =
          performTasks state ambient (performTask state ambient sheets t) tasks := rfl
      rwa [hcons, performTask_eq_self hfirst] at hsame
    intro t' ht'
    rcases List.mem_cons.mp ht' with rfl | ht'
    · exact hfirst
    · exact ih hnodup.2 (fun t' ht' => hstored t' (List.mem_cons_of_mem _ ht')) hrest t' ht'

end Tasks

/-- A cell is not read within its group, unless the group is marked. -/
theorem Graph.IsSchedule.not_mem_of_reads {g : Graph} {cells : CellSet} {groups : List CalcGroup}
    (h : g.IsSchedule cells groups) {G : CalcGroup} (hG : G ∈ groups) (hoff : G.cyclic = false)
    {c p : CellKey} (hc : c ∈ G.cells) (hp : g.Reads c p) : p ∉ G.cells := by
  intro hmem
  refine absurd ((h.flagged G hG).mpr ?_) (by simp [hoff])
  by_cases he : p = c
  · exact .inr ⟨c, hc, he ▸ hp⟩
  · exact .inl ⟨p, hmem, c, hc, he⟩

theorem CalcGroup.key_mem_cells {G : CalcGroup} {t : Task} (ht : t ∈ G.tasks) :
    t.key ∈ G.cells := by
  obtain ⟨key, hkey, rfl⟩ := List.mem_map.mp ht
  exact hkey

/-- The tasks of some groups are about the cells of the groups. -/
theorem CalcGroup.map_key_tasks (groups : List CalcGroup) :
    (groups.flatMap CalcGroup.tasks).map Task.key = groups.flatMap CalcGroup.cells := by
  rw [List.map_flatMap]
  refine congrArg (List.flatMap · groups) (funext fun G => ?_)
  simp [CalcGroup.tasks, Function.comp_def]

/-- No two tasks of a schedule are about one cell. -/
theorem Graph.IsSchedule.nodup_tasks {g : Graph} {cells : CellSet} {groups : List CalcGroup}
    (h : g.IsSchedule cells groups) : ((groups.flatMap CalcGroup.tasks).map Task.key).Nodup := by
  rw [CalcGroup.map_key_tasks]
  exact h.nodup

/-- **The task of a cell in a schedule**: none of the later tasks is about the cell, and unless it
    is to be marked, none of them is about a cell that it reads. -/
theorem Graph.IsSchedule.split_tasks {g : Graph} {cells : CellSet} {groups : List CalcGroup}
    (h : g.IsSchedule cells groups) {c : CellKey} (hc : c ∈ cells) :
    ∃ front back circular,
      groups.flatMap CalcGroup.tasks = front ++ Task.mk c circular :: back ∧
      (circular = true ↔ TransGen (g.ReadsWithin cells) c c) ∧
      (∀ t ∈ back, c ≠ t.key) ∧
      (circular = false → ∀ p, g.Reads c p → ∀ t ∈ Task.mk c circular :: back, p ≠ t.key) := by
  obtain ⟨G, hG, hcG⟩ := (h.covers c).mp hc
  have hcyclic := h.cyclic_iff hG hcG
  have hunread := fun hoff p => h.not_mem_of_reads hG hoff hcG (p := p)
  obtain ⟨before, after, rfl⟩ := List.append_of_mem hG
  obtain ⟨left, right, hcells⟩ := List.append_of_mem hcG
  have hkeys : ∀ t ∈ right.map (fun key => Task.mk key G.cyclic) ++
      after.flatMap CalcGroup.tasks, t.key ∈ right ∨ ∃ H ∈ after, t.key ∈ H.cells := by
    intro t ht
    rcases List.mem_append.mp ht with ht | ht
    · obtain ⟨key, hkey, rfl⟩ := List.mem_map.mp ht
      exact .inl hkey
    · obtain ⟨H, hH, ht⟩ := List.mem_flatMap.mp ht
      exact .inr ⟨H, hH, CalcGroup.key_mem_cells ht⟩
  have hnodup := h.nodup
  rw [List.flatMap_append, List.flatMap_cons, hcells] at hnodup
  have hordered := (List.pairwise_cons.mp (List.pairwise_append.mp h.ordered).2.1).1
  refine ⟨before.flatMap CalcGroup.tasks ++ left.map fun key => ⟨key, G.cyclic⟩,
    right.map (fun key => ⟨key, G.cyclic⟩) ++ after.flatMap CalcGroup.tasks, G.cyclic, ?_,
    hcyclic, ?_, ?_⟩
  · simp only [List.flatMap_append, List.flatMap_cons, CalcGroup.tasks, hcells, List.map_append,
      List.map_cons, List.append_assoc, List.cons_append]
  · intro t ht e
    subst e
    have hrest := (List.nodup_append.mp hnodup).2.1
    rw [List.append_assoc, List.cons_append] at hrest
    have hnot := (List.nodup_cons.mp (List.nodup_append.mp hrest).2.1).1
    refine hnot (List.mem_append.mpr ((hkeys t ht).imp_right fun ⟨H, hH, hk⟩ => ?_))
    exact List.mem_flatMap.mpr ⟨H, hH, hk⟩
  · intro hoff p hp t ht e
    subst e
    have hsame : t.key ∉ G.cells := hunread hoff t.key hp
    rcases List.mem_cons.mp ht with rfl | ht
    · exact hsame hcG
    · rcases hkeys t ht with hk | ⟨H, hH, hk⟩
      · refine hsame ?_
        rw [hcells]
        exact List.mem_append_right _ (List.mem_cons_of_mem _ hk)
      · exact hordered H hH c hcG _ hk hp

/-! ## 3. The workbook after a pass -/

namespace Workbook

variable {wb : Workbook} {seeds : List CellKey} {k : CellKey} {i : Nat}

/-- The batch of a sheet. -/
def batchAt (wb : Workbook) (i : Nat) : Batch := ((wb.tabs[i]?).map Tab.batch).getD {}

theorem isUpdating_eq (wb : Workbook) (i : Nat) : wb.isUpdating i = (wb.batchAt i).isOpen := by
  unfold isUpdating batchAt
  cases wb.tabs[i]? <;> rfl

/-- The cells that a pass takes up. -/
def dirtyCells (wb : Workbook) (seeds : List CellKey) : CellSet :=
  wb.calcState.graph.dirtyClosure (wb.passSeeds seeds)

/-- The cells that a pass sets aside. -/
def waitingCells (wb : Workbook) (seeds : List CellKey) : CellSet :=
  (wb.dirtyCells seeds).filter fun key => wb.isUpdating key.sheet

/-- The cells that a pass evaluates. -/
def readyCells (wb : Workbook) (seeds : List CellKey) : CellSet :=
  (wb.dirtyCells seeds).filter fun key => !wb.isUpdating key.sheet

/-- The tasks of a pass. -/
def passTasks (wb : Workbook) (seeds : List CellKey) : List Task :=
  (wb.calcState.graph.schedule (wb.readyCells seeds)).flatMap CalcGroup.tasks

theorem mem_waitingCells :
    k ∈ wb.waitingCells seeds ↔ k ∈ wb.dirtyCells seeds ∧ wb.isUpdating k.sheet = true := by
  simp [waitingCells]

theorem mem_readyCells :
    k ∈ wb.readyCells seeds ↔ k ∈ wb.dirtyCells seeds ∧ wb.isUpdating k.sheet = false := by
  simp [readyCells]

theorem mem_passSeeds_of_mem (h : k ∈ seeds) : k ∈ wb.passSeeds seeds := by
  unfold passSeeds
  split
  · exact List.mem_append_left _ h
  · exact h

theorem length_defer (tabs : List Tab) (cells : CellSet) :
    (defer tabs cells).length = tabs.length := by
  simp [defer]

theorem length_performTasks (tasks : List Task) :
    (performTasks wb.calcState wb.ambient wb.sheets tasks).length = wb.tabs.length := by
  rw [sameFrames_performTasks.length_eq, sheets, List.length_map]

theorem recalculate_tabs (wb : Workbook) (seeds : List CellKey) :
    (wb.recalculate seeds).2.tabs = (defer wb.tabs (wb.waitingCells seeds)).zipWith
      (fun tab ws => { tab with sheet := ws })
      (performTasks wb.calcState wb.ambient wb.sheets (wb.passTasks seeds)) := by
  have hsheets := @foldl_evaluateGroup_sheets wb.calcState wb.ambient
    (wb.calcState.graph.schedule (wb.readyCells seeds)) { sheets := wb.sheets }
  unfold recalculate
  exact congrArg (List.zipWith _ _) hsheets

/-- Tabs with other sheets, as many as there are tabs. -/
theorem getElem?_zipWith_sheet {tabs : List Tab} {all : List Worksheet}
    (h : all.length = tabs.length) (i : Nat) :
    ((tabs.zipWith (fun tab ws => { tab with sheet := ws }) all)[i]?).map Tab.sheet = all[i]? ∧
      ((tabs.zipWith (fun tab ws => { tab with sheet := ws }) all)[i]?).map Tab.batch =
        (tabs[i]?).map Tab.batch := by
  rw [List.getElem?_zipWith]
  cases hws : all[i]? with
  | none =>
    have htab : tabs[i]? = none := by
      rw [List.getElem?_eq_none_iff] at hws ⊢
      omega
    rw [htab]
    exact ⟨rfl, rfl⟩
  | some ws =>
    obtain ⟨hi, -⟩ := List.getElem?_eq_some_iff.mp hws
    rw [List.getElem?_eq_getElem (by omega : i < tabs.length)]
    exact ⟨rfl, rfl⟩

/-- **The sheets after a pass.** -/
theorem recalculate_sheets (wb : Workbook) (seeds : List CellKey) :
    (wb.recalculate seeds).2.sheets =
      performTasks wb.calcState wb.ambient wb.sheets (wb.passTasks seeds) := by
  refine List.ext_getElem? fun i => ?_
  rw [sheets, List.getElem?_map, recalculate_tabs]
  refine (getElem?_zipWith_sheet ?_ i).1
  rw [length_performTasks, length_defer]

/-- Collecting the cells of one sheet. -/
theorem mem_foldl_insert (cells : CellSet) (i : Nat) (set : CellSet) :
    k ∈ cells.foldl (fun set key => if key.sheet = i then set.insert key else set) set ↔
      k ∈ set ∨ (k.sheet = i ∧ k ∈ cells) := by
  have hmem : k ∈ cells ↔ k ∈ cells.toList := Std.ExtTreeSet.mem_toList.symm
  rw [Std.ExtTreeSet.foldl_eq_foldl_toList, hmem]
  clear hmem
  generalize cells.toList = keys
  induction keys generalizing set with
  | nil => simp
  | cons key keys ih =>
    rw [List.foldl_cons, List.mem_cons]
    refine (ih _).trans ?_
    split
    · rename_i hi
      rw [Std.ExtTreeSet.mem_insert, Std.compare_eq_iff_eq]
      constructor
      · intro h
        rcases h with (rfl | h) | h
        · exact .inr ⟨hi, .inl rfl⟩
        · exact .inl h
        · exact .inr ⟨h.1, .inr h.2⟩
      · intro h
        rcases h with h | ⟨h, rfl | hk⟩
        · exact .inl (.inr h)
        · exact .inl (.inl rfl)
        · exact .inr ⟨h, hk⟩
    · rename_i hi
      constructor
      · intro h
        rcases h with h | h
        · exact .inl h
        · exact .inr ⟨h.1, .inr h.2⟩
      · intro h
        rcases h with h | ⟨h, rfl | hk⟩
        · exact .inl h
        · exact absurd h hi
        · exact .inr ⟨h, hk⟩

/-- A pass has no say in which batches are open, and adds to each what it sets aside of its
    sheet. -/
theorem recalculate_batchAt (wb : Workbook) (seeds : List CellKey) (i : Nat) :
    ((wb.recalculate seeds).2.batchAt i).isOpen = (wb.batchAt i).isOpen ∧
      ∀ k, k ∈ ((wb.recalculate seeds).2.batchAt i).dirty ↔
        k ∈ (wb.batchAt i).dirty ∨ (k.sheet = i ∧ k ∈ wb.waitingCells seeds) := by
  have hbatch : (wb.recalculate seeds).2.batchAt i =
      (((defer wb.tabs (wb.waitingCells seeds))[i]?).map Tab.batch).getD {} := by
    unfold batchAt
    rw [recalculate_tabs]
    refine congrArg (·.getD {}) (getElem?_zipWith_sheet ?_ i).2
    rw [length_performTasks, length_defer]
  rw [hbatch, defer, List.getElem?_mapIdx]
  cases htab : wb.tabs[i]? with
  | none =>
    have hclosed : wb.batchAt i = {} := by simp [batchAt, htab]
    rw [hclosed]
    refine ⟨rfl, fun k => ?_⟩
    have hnone : ¬(k.sheet = i ∧ k ∈ wb.waitingCells seeds) := by
      intro h
      obtain ⟨rfl, hk⟩ := h
      have hopen := (mem_waitingCells.mp hk).2
      rw [isUpdating_eq, hclosed] at hopen
      cases hopen
    simp [hnone]
  | some tab =>
    have hbefore : wb.batchAt i = tab.batch := by simp [batchAt, htab]
    rw [hbefore]
    refine ⟨rfl, fun k => ?_⟩
    exact mem_foldl_insert _ i tab.batch.dirty

@[simp] theorem recalculate_calcState (wb : Workbook) (seeds : List CellKey) :
    (wb.recalculate seeds).2.calcState = wb.calcState := rfl

end Workbook

end Gridcalc
