import Gridcalc.Proofs.Evaluation.Footprint
import Gridcalc.Proofs.Workbook.Steps

/-!
# Settled values

Which formula cells show what they should, all along the steps of the operations.

* `Workbook.CorrectAt`: a cell shows a circularity error if it lies on a circle, and otherwise what
  its formula comes to; `formulaValue_of_agree` says when that is the same on other sheets;
* `Workbook.Stale`: a cell reads, directly or through others, a cell that is owed, set aside, or
  holds a formula of which it is not known what it reads;
* `Workbook.SettledExcept`: every formula cell that is not stale is correct;
* `Step.settled`, `Steps.settled`: every step keeps this, whatever batches are open. That a pass
  does so is `SettledExcept.recalculate`; the other steps leave all cells alone that are not stale
  (`SettledExcept.transfer`).
-/

namespace Gridcalc

open Relation

section Relations

variable {r r' : CellKey → CellKey → Prop} {c d : CellKey}

/-- Two relations that agree on what can be reached reach the same. -/
theorem reflTransGen_iff_of_agree (h : ∀ b, ReflTransGen r' c b → ∀ d, r b d ↔ r' b d) :
    ReflTransGen r c d ↔ ReflTransGen r' c d := by
  constructor
  · intro hr
    induction hr with
    | refl => exact .refl
    | tail _ hstep ih => exact ih.tail ((h _ ih _).mp hstep)
  · intro hr
    induction hr with
    | refl => exact .refl
    | tail hcb hstep ih => exact ih.tail ((h _ hcb _).mpr hstep)

theorem transGen_iff_of_agree (h : ∀ b, ReflTransGen r' c b → ∀ d, r b d ↔ r' b d) :
    TransGen r c d ↔ TransGen r' c d := by
  rw [TransGen.tail'_iff, TransGen.tail'_iff]
  refine exists_congr fun b => ?_
  constructor
  · intro ⟨hr, hstep⟩
    have hr' := (reflTransGen_iff_of_agree h).mp hr
    exact ⟨hr', (h b hr' d).mp hstep⟩
  · intro ⟨hr', hstep⟩
    exact ⟨(reflTransGen_iff_of_agree h).mpr hr', (h b hr' d).mpr hstep⟩

/-- The steps of a circle lead from the cell and back to it. -/
theorem transGen_around (h : TransGen r c c) :
    TransGen (fun a b => r a b ∧ ReflTransGen r c a ∧ ReflTransGen r b c) c c := by
  have hpath : ∀ d, TransGen r c d → ReflTransGen r d c →
      TransGen (fun a b => r a b ∧ ReflTransGen r c a ∧ ReflTransGen r b c) c d := by
    intro d hcd
    induction hcd with
    | single hstep => exact fun hback => .single ⟨hstep, .refl, hback⟩
    | tail hcb hstep ih =>
      exact fun hback => (ih (hback.head hstep)).tail ⟨hstep, hcb.to_reflTransGen, hback⟩
  exact hpath c h .refl

end Relations

namespace Workbook

/-! ## 1. Correct and stale cells -/

/-- The cell shows what it should: a circularity error on a circle, and otherwise what its formula
    comes to at its place in the current sheets, whatever the time and the random draws. -/
def CorrectAt (wb : Workbook) (c : CellKey) : Prop :=
  (wb.calcState.graph.OnCycle c → valueIn wb.sheets c = .error .circular) ∧
  (¬wb.calcState.graph.OnCycle c → ∀ ambient,
    valueIn wb.sheets c = formulaValue (placeOf wb.sheets c ambient) (treeIn wb.sheets c))

/-- The cell is set aside for a batch. -/
def Pending (wb : Workbook) (c : CellKey) : Prop := ∃ i, c ∈ (wb.batchAt i).dirty

/-- The cell still has to be evaluated, in the next pass or at the end of a batch. -/
def PutOff (wb : Workbook) (owed : List CellKey) (c : CellKey) : Prop := c ∈ owed ∨ wb.Pending c

@[simp] theorem putOff_nil {wb : Workbook} {c : CellKey} : wb.PutOff [] c ↔ wb.Pending c := by
  simp [PutOff]

/-- The cell holds a formula that may depend on more than the cells it is known to read. -/
def Untracked (sheets : List Worksheet) (c : CellKey) : Prop :=
  ∃ e, treeIn sheets c = some e ∧ ¬e.Tracked sheets c.sheet

/-- The cells where staleness starts. -/
def Unsettled (wb : Workbook) (owed : List CellKey) (c : CellKey) : Prop :=
  c ∈ owed ∨ wb.Pending c ∨ Untracked wb.sheets c

/-- The cell reads an unsettled one, directly or through others. -/
def Stale (wb : Workbook) (owed : List CellKey) (c : CellKey) : Prop :=
  ∃ s, wb.Unsettled owed s ∧ ReflTransGen wb.calcState.graph.Reads c s

/-- Every formula cell that is not stale is correct. -/
def SettledExcept (wb : Workbook) (owed : List CellKey) : Prop :=
  ∀ c, formulaIn wb.sheets c ≠ none → ¬wb.Stale owed c → wb.CorrectAt c

section Staleness

variable {wb wb' : Workbook} {owed owed' : List CellKey} {c p : CellKey}

/-- What a cell reads is not stale if the cell is not. -/
theorem not_stale_of_reads (h : ¬wb.Stale owed c)
    (hr : ReflTransGen wb.calcState.graph.Reads c p) : ¬wb.Stale owed p :=
  fun ⟨s, hs, hps⟩ => h ⟨s, hs, hr.trans hps⟩

theorem not_unsettled (h : ¬wb.Stale owed c) : ¬wb.Unsettled owed c :=
  fun hu => h ⟨c, hu, .refl⟩

/-- The formula of a cell looks at another one: it refers to it, or stretches a rectangle over
    it. -/
def Sees (sheets : List Worksheet) (c p : CellKey) : Prop :=
  ∃ e, treeIn sheets c = some e ∧
    (p ∈ precedentsOf sheets c.sheet e ∨ p ∈ e.beside sheets c.sheet)

/-- A formula that is not evaluated anew each time comes to the same on sheets that agree wherever
    it looks; a summary does if the same rows are hidden. -/
theorem formulaValue_of_agree {sheets sheets' : List Worksheet} {ambient ambient' : Ambient}
    (ha : (placeOf sheets c ambient).Aligned (placeOf sheets' c ambient'))
    (hc : formulaIn sheets c = formulaIn sheets' c)
    (hv : ∀ e, treeIn sheets c = some e → e.isVolatile = false)
    (hshown : ∀ e, treeIn sheets c = some e → ∀ name ∈ e.functionNames, isSummaryName name = true →
      (placeOf sheets c ambient).HidesAlike (placeOf sheets' c ambient'))
    (hagree : ∀ p, Sees sheets c p → AgreeAt sheets sheets' p) :
    formulaValue (placeOf sheets c ambient) (treeIn sheets c) =
      formulaValue (placeOf sheets' c ambient') (treeIn sheets' c) := by
  rw [← treeIn_congr hc]
  cases htree : treeIn sheets c with
  | none => rfl
  | some e =>
    unfold formulaValue
    rw [evaluateFormula_congr ha (readsAlike_of_steady (hv e htree) (hshown e htree)
      (fun p hp => hagree p ⟨e, htree, .inl hp⟩) fun p hp => hagree p ⟨e, htree, .inr hp⟩)]

/-- A formula of which it is known what it reads comes to the same on sheets that agree there. -/
theorem formulaValue_congr {sheets sheets' : List Worksheet} (hf : SameFrames sheets sheets')
    (hb : ∀ ws ∈ sheets, ws.Bounded) (hb' : ∀ ws ∈ sheets', ws.Bounded)
    (ht : ¬Untracked sheets c) (hc : formulaIn sheets c = formulaIn sheets' c)
    (hagree : ∀ p ∈ readIn sheets c, AgreeAt sheets sheets' p) (ambient ambient' : Ambient) :
    formulaValue (placeOf sheets c ambient) (treeIn sheets c) =
      formulaValue (placeOf sheets' c ambient') (treeIn sheets' c) := by
  have hm : (placeOf sheets c ambient).Matched (placeOf sheets' c ambient') :=
    ⟨rfl, rfl, rfl, hf, hb, hb'⟩
  have htracked : ∀ e, treeIn sheets c = some e → e.Tracked sheets c.sheet := fun e htree =>
    not_not.mp fun hn => ht ⟨e, htree, hn⟩
  refine formulaValue_of_agree hm.aligned hc (fun e htree => (htracked e htree).1)
    (fun _ _ _ _ _ => hm.hidesAlike) fun p hp => ?_
  obtain ⟨e, htree, hp | hp⟩ := hp
  · exact hagree p (mem_readIn.mpr ⟨e, htree, hp⟩)
  · exact hagree p (mem_readIn.mpr ⟨e, htree, (htracked e htree).2 p hp⟩)

theorem untracked_congr {sheets sheets' : List Worksheet} (hf : SameFrames sheets sheets')
    (hc : formulaIn sheets c = formulaIn sheets' c) :
    Untracked sheets c ↔ Untracked sheets' c := by
  unfold Untracked
  rw [treeIn_congr hc]
  exact exists_congr fun e => and_congr_right fun _ => not_congr (hf.tracked_iff _ e)

/-- What reads another cell is a formula. -/
theorem formulaIn_of_reads (hw : wb.WellFormed)
    (h : wb.calcState.graph.Reads c p) : formulaIn wb.sheets c ≠ none := by
  obtain ⟨e, htree, -⟩ := mem_readIn.mp ((hw.known c).reads_iff.mp h)
  obtain ⟨text, htext, -⟩ := Option.bind_eq_some_iff.mp htree
  simp [htext]

/-- A cell reads the same in two workbooks that agree on it. -/
theorem reads_iff_of_agree (hw : wb.WellFormed) (hw' : wb'.WellFormed)
    (hf : SameFrames wb.sheets wb'.sheets) (hagree : AgreeAt wb.sheets wb'.sheets c) :
    wb.calcState.graph.Reads c p ↔ wb'.calcState.graph.Reads c p := by
  rw [(hw.known c).reads_iff, (hw'.known c).reads_iff, readIn_congr hf.map_outline_eq hagree.2]

/-! ## 2. Steps that leave alone what is not stale -/

/-- A cell stays correct if nothing that it reads changes, directly or through others. -/
theorem CorrectAt.transfer (h : wb.CorrectAt c) (hw : wb.WellFormed) (hw' : wb'.WellFormed)
    (hf : SameFrames wb.sheets wb'.sheets) (ht : ¬Untracked wb.sheets c)
    (hagree : ∀ b, ReflTransGen wb'.calcState.graph.Reads c b →
      AgreeAt wb.sheets wb'.sheets b) : wb'.CorrectAt c := by
  obtain ⟨hcircle, hvalue⟩ := h
  have hcycle : wb.calcState.graph.OnCycle c ↔ wb'.calcState.graph.OnCycle c :=
    transGen_iff_of_agree fun b hb _ => reads_iff_of_agree hw hw' hf (hagree b hb)
  have hself := hagree c .refl
  rw [CorrectAt, ← hcycle, ← hself.1]
  refine ⟨hcircle, fun hoff ambient => (hvalue hoff ambient).trans ?_⟩
  refine formulaValue_congr hf hw.bounded hw'.bounded ht hself.2 (fun p hp => ?_) _ _
  have hread : wb.calcState.graph.Reads c p := (hw.known c).reads_iff.mpr hp
  exact hagree p (.single ((reads_iff_of_agree hw hw' hf hself).mp hread))

/-- A change is no matter for the cells that are not stale afterwards, if it leaves alone those
    cells, the frames, and what was unsettled. -/
theorem SettledExcept.transfer (h : wb.SettledExcept owed) (hw : wb.WellFormed)
    (hw' : wb'.WellFormed) (hf : SameFrames wb.sheets wb'.sheets)
    (hagree : ∀ k, ¬wb'.Stale owed' k → AgreeAt wb.sheets wb'.sheets k)
    (hstart : ∀ k, wb.PutOff owed k → wb'.PutOff owed' k) : wb'.SettledExcept owed' := by
  intro c hc hfresh
  have hreach : ∀ b, ReflTransGen wb'.calcState.graph.Reads c b → ¬wb'.Stale owed' b :=
    fun b hb => not_stale_of_reads hfresh hb
  have hfresh₀ : ¬wb.Stale owed c := by
    intro ⟨s, hs, hcs⟩
    have hcs' := (reflTransGen_iff_of_agree fun b hb _ =>
      reads_iff_of_agree hw hw' hf (hagree b (hreach b hb))).mp hcs
    refine not_unsettled (hreach s hcs') ?_
    rcases hs with hs | hs | hs
    · exact (hstart s (.inl hs)).imp_right .inl
    · exact (hstart s (.inr hs)).imp_right .inl
    · exact .inr (.inr ((untracked_congr hf (hagree s (hreach s hcs')).2).mp hs))
  have hc₀ : formulaIn wb.sheets c ≠ none := by
    rw [(hagree c hfresh).2]
    exact hc
  refine (h c hc₀ hfresh₀).transfer hw hw' hf ?_ fun b hb => hagree b (hreach b hb)
  exact fun hu => not_unsettled hfresh₀ (.inr (.inr hu))

end Staleness

/-! ## 3. Passes -/

section Passes

variable {wb : Workbook} {owed seeds : List CellKey} {c k : CellKey}

/-- A pass sets aside what it does not evaluate, and forgets nothing that was set aside. -/
theorem pending_recalculate :
    (wb.recalculate seeds).2.Pending k ↔ wb.Pending k ∨ k ∈ wb.waitingCells seeds := by
  unfold Pending
  constructor
  · intro ⟨i, hk⟩
    exact ((recalculate_batchAt wb seeds i).2 k).mp hk |>.imp (fun h => ⟨i, h⟩) And.right
  · intro h
    rcases h with ⟨i, hk⟩ | hk
    · exact ⟨i, ((recalculate_batchAt wb seeds i).2 k).mpr (.inl hk)⟩
    · exact ⟨k.sheet, ((recalculate_batchAt wb seeds _).2 k).mpr (.inr ⟨rfl, hk⟩)⟩

/-- What is dirty and not stale after the pass was evaluated. -/
theorem mem_readyCells_of_not_stale (hfresh : ¬(wb.recalculate seeds).2.Stale [] c)
    (hc : c ∈ wb.dirtyCells seeds) : c ∈ wb.readyCells seeds := by
  refine mem_readyCells.mpr ⟨hc, Bool.eq_false_iff.mpr fun hopen => ?_⟩
  have hwaiting := mem_waitingCells.mpr ⟨hc, hopen⟩
  exact not_unsettled hfresh (.inr (.inl (pending_recalculate.mpr (.inr hwaiting))))

/-- A cell that is not taken up stays as it is. -/
theorem cellIn_recalculate (hm : wb.calcState.graph.Mirrored) (hc : c ∉ wb.dirtyCells seeds) :
    cellIn (wb.recalculate seeds).2.sheets c = cellIn wb.sheets c := by
  rw [recalculate_sheets]
  refine cellIn_performTasks fun t ht e => ?_
  subst e
  obtain ⟨G, hG, hmem⟩ := List.mem_flatMap.mp ht
  obtain ⟨key, hkey, rfl⟩ := List.mem_map.mp hmem
  have hready := ((Graph.schedule_isSchedule hm (wb.readyCells seeds)).covers key).mpr ⟨G, hG, hkey⟩
  exact hc (mem_readyCells.mp hready).1

/-- The circles through a cell lie in a set that holds whatever the cell reads and is read by. -/
theorem onCycle_iff_within {g : Graph} {cells : CellSet}
    (h : ∀ b, ReflTransGen g.Reads c b → ReflTransGen g.Reads b c → b ∈ cells) :
    TransGen (g.ReadsWithin cells) c c ↔ g.OnCycle c := by
  constructor
  · exact fun hw => TransGen.mono (fun _ _ hstep => hstep.2.2) c c hw
  · intro hcycle
    refine TransGen.mono (fun a b hab => ?_) c c (transGen_around hcycle)
    obtain ⟨hstep, hto, hback⟩ := hab
    exact ⟨h a hto (hback.head hstep), h b (hto.tail hstep) hback, hstep⟩

/-- A cell that a pass evaluates is correct afterwards, provided that the pass evaluates the circles
    through it as well. -/
theorem correctAt_of_ready (hw : wb.WellFormed) (hm : wb.calcState.graph.Mirrored)
    (hc : formulaIn wb.sheets c ≠ none) (ht : ¬Untracked wb.sheets c)
    (hready : c ∈ wb.readyCells seeds)
    (hcircle : ∀ b, ReflTransGen wb.calcState.graph.Reads c b →
      ReflTransGen wb.calcState.graph.Reads b c → b ∈ wb.readyCells seeds) :
    (wb.recalculate seeds).2.CorrectAt c := by
  obtain ⟨front, back, circular, htasks, hflag, hlast, hearlier⟩ :=
    (Graph.schedule_isSchedule hm (wb.readyCells seeds)).split_tasks hready
  rw [onCycle_iff_within hcircle] at hflag
  let before := performTasks wb.calcState wb.ambient wb.sheets front
  have hsheets : (wb.recalculate seeds).2.sheets =
      performTasks wb.calcState wb.ambient before (⟨c, circular⟩ :: back) := by
    rw [recalculate_sheets, passTasks, htasks, performTasks_append]
  have hvalue : valueIn (wb.recalculate seeds).2.sheets c =
      taskValue wb.ambient before (treeIn wb.sheets c) ⟨c, circular⟩ := by
    rw [recalculate_sheets, passTasks, htasks]
    exact performTasks_split ((hw.known c).formulas_eq hc) hc hlast
  have hf : SameFrames before (wb.recalculate seeds).2.sheets := by
    rw [hsheets]
    exact sameFrames_performTasks.symm
  have hformula : ∀ k, formulaIn before k = formulaIn wb.sheets k := formulaIn_performTasks
  have hformula' : formulaIn before c = formulaIn (wb.recalculate seeds).2.sheets c := by
    rw [hsheets]
    exact (formulaIn_performTasks c).symm
  have htracked : ¬Untracked before c := fun hu =>
    ht ((untracked_congr sameFrames_performTasks (hformula c)).mp hu)
  refine ⟨fun hon => ?_, fun hoff ambient => ?_⟩
  · rw [hvalue, hflag.mpr hon]
    rfl
  · have hcircular : circular = false := Bool.eq_false_iff.mpr fun e => hoff (hflag.mp e)
    rw [hvalue, hcircular, ← treeIn_congr (hformula c)]
    refine formulaValue_congr hf ?_ (hw.recalculate seeds).bounded htracked hformula' ?_ _ _
    · exact fun ws hws => (each_wellFormed_performTasks hw.sheets.each ws hws).bounded
    · -- what the cell reads is not changed any more
      intro p hp
      rw [readIn_congr sameFrames_performTasks.map_outline_eq (hformula c)] at hp
      have hlater := hearlier hcircular p ((hw.known c).reads_iff.mpr hp)
      rw [hsheets]
      exact agreeAt_of_cellIn (cellIn_performTasks hlater).symm

/-- Without open batches a pass marks the cells on circles. -/
theorem circular_iff_onCycle (hm : wb.calcState.graph.Mirrored)
    (hclosed : ∀ i, wb.isUpdating i = false) {t : Task} (ht : t ∈ wb.passTasks seeds) :
    t.circular = true ↔ wb.calcState.graph.OnCycle t.key := by
  have hsched := Graph.schedule_isSchedule hm (wb.readyCells seeds)
  obtain ⟨G, hG, ht⟩ := List.mem_flatMap.mp ht
  obtain ⟨key, hkey, rfl⟩ := List.mem_map.mp ht
  have hready := (hsched.covers key).mpr ⟨G, hG, hkey⟩
  refine (hsched.cyclic_iff hG hkey).trans (onCycle_iff_within fun b _ hback => ?_)
  have hb := Graph.mem_dirtyClosure_of_reads hm (mem_readyCells.mp hready).1 hback
  exact mem_readyCells.mpr ⟨hb, hclosed b.sheet⟩

/-- Without open batches the task of a correct cell comes to what the cell shows. -/
theorem CorrectAt.taskValue_eq (hm : wb.calcState.graph.Mirrored)
    (hclosed : ∀ i, wb.isUpdating i = false) {t : Task} (ht : t ∈ wb.passTasks seeds)
    (h : wb.CorrectAt t.key) :
    taskValue wb.ambient wb.sheets (treeIn wb.sheets t.key) t = valueIn wb.sheets t.key := by
  obtain ⟨hcircle, hvalue⟩ := h
  have hflag := circular_iff_onCycle hm hclosed ht
  unfold taskValue
  split
  · rename_i hcircular
    exact (hcircle (hflag.mp hcircular)).symm
  · rename_i hcircular
    exact (hvalue (fun hon => hcircular (hflag.mpr hon)) wb.ambient).symm

/-- A pass over correct cells changes nothing, provided that no batch is open. -/
theorem recalculate_eq_of_correct (hw : wb.WellFormed) (hm : wb.calcState.graph.Mirrored)
    (hclosed : ∀ i, wb.isUpdating i = false)
    (hcorrect : ∀ c, formulaIn wb.sheets c ≠ none → wb.CorrectAt c) (seeds : List CellKey) :
    (wb.recalculate seeds).2.sheets = wb.sheets := by
  rw [recalculate_sheets]
  refine performTasks_induction (· = wb.sheets) rfl fun sheets t ht h => ?_
  subst h
  refine performTask_eq_self fun root hroot => ?_
  obtain ⟨hc, rfl⟩ := (hw.known t.key).eq_of_getElem? hroot
  exact (hcorrect t.key hc).taskValue_eq hm hclosed ht

/-- **A pass settles what it starts from**: afterwards every cell is correct that is downstream
    neither of a cell set aside nor of a formula of which it is not known what it reads. -/
theorem SettledExcept.recalculate (h : wb.SettledExcept owed) (hw : wb.WellFormed)
    (hm : wb.calcState.graph.Mirrored) (hseeds : ∀ k ∈ owed, k ∈ seeds) :
    (wb.recalculate seeds).2.SettledExcept [] := by
  intro c hc hfresh
  have hw' := hw.recalculate seeds
  have hf : SameFrames wb.sheets (wb.recalculate seeds).2.sheets := by
    rw [recalculate_sheets]
    exact sameFrames_performTasks.symm
  have hformula : ∀ k, formulaIn wb.sheets k = formulaIn (wb.recalculate seeds).2.sheets k := by
    intro k
    rw [recalculate_sheets, formulaIn_performTasks]
  have htracked : ¬Untracked wb.sheets c := fun hu =>
    not_unsettled hfresh (.inr (.inr ((untracked_congr hf (hformula c)).mp hu)))
  by_cases hdirty : c ∈ wb.dirtyCells seeds
  · have hready := mem_readyCells_of_not_stale hfresh hdirty
    refine correctAt_of_ready hw hm (hformula c ▸ hc) htracked hready fun b hcb hbc => ?_
    have hb : b ∈ wb.dirtyCells seeds := Graph.mem_dirtyClosure_of_reads hm hdirty hbc
    exact mem_readyCells_of_not_stale (not_stale_of_reads hfresh hcb) hb
  · -- nothing that the cell reads is dirty either, so that it stays as it was
    have hclean : ∀ b, ReflTransGen wb.calcState.graph.Reads c b → b ∉ wb.dirtyCells seeds :=
      fun b hb hbd => hdirty (Graph.mem_dirtyClosure_of_reads hm hbd hb)
    have hfresh₀ : ¬wb.Stale owed c := by
      intro ⟨s, hs, hcs⟩
      rcases hs with hs | hs | hs
      · exact hclean s hcs (Graph.mem_dirtyClosure_of_mem hm (mem_passSeeds_of_mem (hseeds s hs)))
      · exact hfresh ⟨s, .inr (.inl (pending_recalculate.mpr (.inl hs))), hcs⟩
      · exact hfresh ⟨s, .inr (.inr ((untracked_congr hf (hformula s)).mp hs)), hcs⟩
    rw [← hformula] at hc
    refine (h c hc hfresh₀).transfer hw hw' hf htracked fun b hb => ?_
    exact agreeAt_of_cellIn (cellIn_recalculate hm (hclean b hb)).symm

end Passes

/-! ## 4. The other steps -/

section Steps

variable {wb : Workbook} {owed : List CellKey} {key k : CellKey}

theorem PutOff.put (h : wb.PutOff owed k) (key : CellKey) (cell : Cell) :
    (wb.put key cell).PutOff (key :: owed) k :=
  h.imp (List.mem_cons_of_mem _) fun ⟨i, hk⟩ => ⟨i, by rwa [batchAt_put]⟩

theorem PutOff.restyle (h : wb.PutOff owed k) (key : CellKey) (style : Nat) :
    (wb.restyle key style).PutOff owed k :=
  h.imp_right fun ⟨i, hk⟩ => ⟨i, by rwa [batchAt_restyle]⟩

/-- A batch may change as long as what was set aside is owed or still set aside. -/
theorem PutOff.setBatch (h : wb.PutOff owed k) {i : Nat} {batch : Batch} {owed' : List CellKey}
    (howed : ∀ k ∈ owed, k ∈ owed')
    (hkept : ∀ k ∈ (wb.batchAt i).dirty, k ∈ owed' ∨ k ∈ batch.dirty) :
    (wb.setBatch i batch).PutOff owed' k := by
  rcases h with hk | ⟨j, hk⟩
  · exact .inl (howed k hk)
  · by_cases hj : i = j ∧ j < wb.tabs.length
    · refine (hkept k (hj.1 ▸ hk)).imp_right fun hk => ⟨j, ?_⟩
      rwa [batchAt_setBatch, if_pos hj]
    · refine .inr ⟨j, ?_⟩
      rwa [batchAt_setBatch, if_neg hj]

theorem SettledExcept.put (h : wb.SettledExcept owed) (hw : wb.WellFormed) (hin : wb.InGrid key)
    (cell : Cell) : (wb.put key cell).SettledExcept (key :: owed) := by
  refine h.transfer hw (hw.put hin cell) (sameFrames_put wb key cell).symm (fun k hk => ?_)
    fun k hk => hk.put key cell
  have hne : key ≠ k := by
    intro e
    subst e
    exact not_unsettled hk (.inl List.mem_cons_self)
  refine agreeAt_of_cellIn ?_
  rw [cellIn_put hin, if_neg hne]

theorem SettledExcept.restyle (h : wb.SettledExcept owed) (hw : wb.WellFormed)
    (hin : wb.InGrid key) (style : Nat) : (wb.restyle key style).SettledExcept owed :=
  h.transfer hw (hw.restyle hin style) (sameFrames_restyle wb key style).symm
    (fun k _ => (agreeAt_restyle hin style k).symm) fun _ hk => hk.restyle key style

/-- After reading anew every formula is owed. -/
theorem settledExcept_formulas (hw : wb.WellFormed) :
    wb.SettledExcept wb.calcState.formulas.keys := by
  intro c hc hfresh
  have hmem : c ∈ wb.calcState.formulas.keys := by
    rw [Std.ExtTreeMap.mem_keys, ← Std.ExtTreeMap.contains_iff_mem]
    exact (hw.known c).contains_iff.mpr hc
  exact absurd (.inl hmem) (not_unsettled hfresh)

theorem SettledExcept.setBatch (h : wb.SettledExcept owed) (hw : wb.WellFormed) {i : Nat}
    {batch : Batch} {owed' : List CellKey} (howed : ∀ k ∈ owed, k ∈ owed')
    (hkept : ∀ k ∈ (wb.batchAt i).dirty, k ∈ owed' ∨ k ∈ batch.dirty) :
    (wb.setBatch i batch).SettledExcept owed' := by
  have hsheets := sheets_setBatch wb i batch
  refine h.transfer hw (hw.of_eq hsheets rfl) (hsheets ▸ .refl _) (fun k _ => ?_)
    fun _ hk => hk.setBatch howed hkept
  rw [hsheets]
  exact ⟨rfl, rfl⟩

end Steps

end Workbook

/-! ## 5. All steps -/

/-- **A step keeps settled what is not stale**, whatever batches are open. -/
theorem Step.settled {s s' : Progress} (hstep : Step s s')
    (h : s.book.SettledExcept s.owed) (hw : s.book.WellFormed) (hc : s.book.Consistent) :
    s'.book.SettledExcept s'.owed := by
  have hw' := hstep.wellFormed hw
  cases hstep with
  | put hin cell => exact h.put hw hin cell
  | restyle hin style => exact h.restyle hw hin style
  | pass hseeds => exact h.recalculate hw hc.neat.mirrored hseeds
  | reread _ _ _ => exact Workbook.settledExcept_formulas hw'
  | openBatch i => exact h.setBatch hw (fun _ hk => hk) fun _ hk => .inr hk
  | closeBatch i =>
    refine h.setBatch hw (fun _ hk => List.mem_append_right _ hk) fun k hk => .inl ?_
    exact List.mem_append_left _ (Std.ExtTreeSet.mem_toList.mpr hk)
  | configure settings evaluatesVolatile ambient =>
    exact h.transfer hw hw' (.refl _) (fun _ _ => ⟨rfl, rfl⟩) fun _ hk => hk

theorem Steps.settled {s s' : Progress} (hsteps : Steps s s')
    (h : s.book.SettledExcept s.owed) (hw : s.book.WellFormed) (hc : s.book.Consistent) :
    s'.book.SettledExcept s'.owed := by
  induction hsteps with
  | refl => exact h
  | tail hsteps hstep ih =>
    exact hstep.settled ih (Steps.wellFormed hsteps hw) (Steps.consistent hsteps hc)

end Gridcalc
