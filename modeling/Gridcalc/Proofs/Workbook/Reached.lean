import Gridcalc.Proofs.Evaluation.Beside
import Gridcalc.Proofs.Workbook.Operations
import Gridcalc.Proofs.Workbook.Settled

/-!
# Reached workbooks

What holds of every workbook that operations other than the filters lead to.

* `Workbook.Reached`: there is a run from a new workbook;
* `Workbook.Sound`: well-formed, consistent, and with all values settled; every reached workbook is
  (`Reached.sound`);
* `reached_correct`: without an open batch every formula cell is correct, and evaluating everything
  again changes nothing.

This needs that the stored formulas are plain: a volatile formula has a value of its own each time,
and a conditional sum with a third argument may read cells that nobody knows of.
-/

namespace Gridcalc

open Relation

/-! ## 1. Runs -/

/-- A formula that reads its references and nothing else: no volatile function, and no `SUMIF` or
    `AVERAGEIF` with three arguments. -/
def Expr.Plain (e : Expr) : Prop :=
  e.isVolatile = false ∧ ∀ call ∈ e.calls, isStretchingName call.1 = true → call.2.length ≠ 3

namespace Workbook

variable {wb wb' : Workbook}

/-- All stored formulas are plain. -/
def PlainFormulas (wb : Workbook) : Prop :=
  ∀ key text e, formulaIn wb.sheets key = some text → (parseFormula text).root = some e → e.Plain

/-- A run of operations other than the filters leads here from a new workbook. -/
def Reached (wb : Workbook) : Prop :=
  ∃ settings ambient ops, (∀ op ∈ ops, Operation.hidesRows op = false) ∧
    wb = Operation.applyAll ops (create settings ambient)

/-- What operations keep. -/
structure Sound (wb : Workbook) : Prop where
  wellFormed : wb.WellFormed
  consistent : wb.Consistent
  settled : wb.SettledExcept []

/-- A new workbook holds nothing. -/
theorem cellIn_create (settings : Settings) (ambient : Ambient) (key : CellKey) :
    cellIn (create settings ambient).sheets key = none := by
  obtain ⟨i, row, col⟩ := key
  cases i <;> simp [cellIn, create, sheets, Worksheet.create, Worksheet.get?, CellStore.get?]

theorem formulaIn_create (settings : Settings) (ambient : Ambient) (key : CellKey) :
    formulaIn (create settings ambient).sheets key = none := by
  rw [formulaIn, cellIn_create]
  rfl

theorem sound_create (settings : Settings) (ambient : Ambient) :
    (create settings ambient).Sound :=
  ⟨wellFormed_create _ _, consistent_create _ _, fun c hc => absurd (formulaIn_create _ _ c) hc⟩

theorem Sound.steps (h : wb.Sound) (hsteps : Steps ⟨wb, []⟩ ⟨wb', []⟩) : wb'.Sound :=
  ⟨hsteps.wellFormed h.wellFormed, hsteps.consistent h.consistent,
    hsteps.settled h.settled h.wellFormed h.consistent⟩

theorem Sound.applyAll (h : wb.Sound) {ops : List Operation}
    (hops : ∀ op ∈ ops, op.hidesRows = false) : (Operation.applyAll ops wb).Sound :=
  h.steps (Operation.steps_applyAll h.wellFormed hops)

theorem Reached.sound (h : wb.Reached) : wb.Sound := by
  obtain ⟨settings, ambient, ops, hops, rfl⟩ := h
  exact (sound_create settings ambient).applyAll hops

/-! ## 2. Correct values -/

theorem PlainFormulas.tracked (h : wb.PlainFormulas) (c : CellKey) :
    ¬Untracked wb.sheets c := by
  intro ⟨e, he, hn⟩
  obtain ⟨text, htext, hroot⟩ := Option.bind_eq_some_iff.mp he
  obtain ⟨hv, hcalls⟩ := h c text e htext hroot
  exact hn (Expr.tracked_of_calls hv hcalls)

/-- Without open batches and with plain formulas, nothing is stale. -/
theorem Sound.correct (h : wb.Sound) (hclosed : ∀ i, wb.isUpdating i = false)
    (hplain : wb.PlainFormulas) :
    ∀ c, formulaIn wb.sheets c ≠ none → wb.CorrectAt c := by
  intro c hc
  refine h.settled c hc ?_
  intro h
  obtain ⟨s, hs | ⟨i, hs⟩ | hs, -⟩ := h
  · cases hs
  · have hopen : (wb.batchAt i).isOpen = false := isUpdating_eq wb i ▸ hclosed i
    rw [h.consistent.clean i hopen] at hs
    exact Std.ExtTreeSet.not_mem_empty hs
  · exact hplain.tracked s hs

/-- **Every formula cell of a reached workbook is correct**, provided that no batch is open: on a
    circle of the dependency graph it shows a circularity error, and elsewhere what its own text
    comes to at its place in the current sheets. Evaluating everything again changes nothing. -/
theorem reached_correct (wb : Workbook) (h : wb.Reached)
    (hclosed : ∀ i, wb.isUpdating i = false) (hplain : wb.PlainFormulas) :
    (∀ key text, formulaIn wb.sheets key = some text →
      (wb.calcState.graph.OnCycle key → valueIn wb.sheets key = .error .circular) ∧
      (¬wb.calcState.graph.OnCycle key → ∀ ambient, valueIn wb.sheets key =
        formulaValue (placeOf wb.sheets key ambient) (parseFormula text).root)) ∧
    wb.recalculateAll.2.sheets = wb.sheets := by
  have hsound := h.sound
  have hcorrect := hsound.correct hclosed hplain
  refine ⟨fun key text htext => ?_, ?_⟩
  · have htree : treeIn wb.sheets key = (parseFormula text).root := by
      rw [treeIn, htext]
      rfl
    rw [← htree]
    exact hcorrect key (by simp [htext])
  · exact recalculate_eq_of_correct hsound.wellFormed hsound.consistent.neat.mirrored hclosed
      hcorrect _

/-! ## 3. Workbooks of one formula -/

/-- A formula in the first cell of an otherwise empty workbook. -/
def lone (text : String) : Workbook :=
  Operation.applyAll [.cell 0 0 0 (.setFormula text)] (create {} ⟨default, fun _ => 0⟩)

theorem reached_lone (text : String) : (lone text).Reached :=
  ⟨{}, ⟨default, fun _ => 0⟩, [.cell 0 0 0 (.setFormula text)], by simp [Operation.hidesRows], rfl⟩

theorem isUpdating_lone (text : String) (i : Nat) : (lone text).isUpdating i = false := by
  rw [lone, Operation.isUpdating_applyAll (by simp [Operation.onCell])]
  cases i <;> rfl

section Lone

variable {text : String} (h : text.toList.head? = some '=')

include h

/-- A text that begins with an equals sign is stored as it is. -/
theorem apply_setFormula (wb : Workbook) :
    (Operation.cell 0 0 0 (.setFormula text)).apply wb =
      (Edit.writeContents 0 0 0 (.ofFormula text)).after wb := by
  simp only [Operation.apply, Operation.run, CellAction.run, Edit.setFormula, if_pos h]

theorem lone_eq : lone text =
    (Edit.writeContents 0 0 0 (.ofFormula text)).after (create {} ⟨default, fun _ => 0⟩) := by
  rw [lone, Operation.applyAll, List.foldl_cons, List.foldl_nil, apply_setFormula h]

theorem formulaIn_lone (k : CellKey) :
    formulaIn (lone text).sheets k = if ⟨0, 0, 0⟩ = k then some text else none := by
  have hgrid : (create {} ⟨default, fun _ => 0⟩).InGrid ⟨0, 0, 0⟩ := ⟨_, rfl, by decide⟩
  rw [lone_eq h, Edit.formulaIn_writeContents hgrid, formulaIn_create]
  rfl

theorem eq_of_formulaIn_lone {k : CellKey} {text' : String}
    (htext : formulaIn (lone text).sheets k = some text') : text' = text := by
  rw [formulaIn_lone h] at htext
  split at htext
  · exact (Option.some.inj htext).symm
  · cases htext

theorem plain_lone (hplain : ∀ e, (parseFormula text).root = some e → e.Plain) :
    (lone text).PlainFormulas := by
  intro key text' e htext hroot
  rw [eq_of_formulaIn_lone h htext] at hroot
  exact hplain e hroot

end Lone

/-- A cell that refers to itself, in an otherwise empty workbook. -/
def selfReading : Workbook :=
  Operation.applyAll [.cell 0 0 0 (.setFormula "=A1")] (create {} ⟨default, fun _ => 0⟩)

theorem reached_selfReading : selfReading.Reached := reached_lone "=A1"

theorem apply_selfFormula (wb : Workbook) :
    (Operation.cell 0 0 0 (.setFormula "=A1")).apply wb =
      (Edit.writeContents 0 0 0 (.ofFormula "=A1")).after wb :=
  apply_setFormula (by decide) wb

theorem formulaIn_selfReading (k : CellKey) :
    formulaIn selfReading.sheets k = if ⟨0, 0, 0⟩ = k then some "=A1" else none :=
  formulaIn_lone (by decide) k

theorem isUpdating_selfReading (i : Nat) : selfReading.isUpdating i = false :=
  isUpdating_lone "=A1" i

theorem plain_selfReading : selfReading.PlainFormulas := by
  refine plain_lone (by decide) fun e hroot => ?_
  have hvolatile : (parseFormula "=A1").root.map Expr.isVolatile = some false := by
    decide +kernel
  have hcalls : (parseFormula "=A1").root.map (fun e => e.calls.length) = some 0 := by
    decide +kernel
  rw [hroot, Option.map_some, Option.some.injEq] at hvolatile hcalls
  refine ⟨hvolatile, fun call hcall => ?_⟩
  rw [List.length_eq_zero_iff.mp hcalls] at hcall
  exact absurd hcall List.not_mem_nil

theorem onCycle_selfReading : selfReading.calcState.graph.OnCycle ⟨0, 0, 0⟩ := by
  have hw := reached_selfReading.sound.wellFormed
  refine .single ((hw.known _).reads_iff.mpr ?_)
  have hreferences : (parseFormula "=A1").root.map Expr.references =
      some [.cell none (.ofIndices 0 0)] := by decide +kernel
  obtain ⟨e, hroot, hreferences⟩ := Option.map_eq_some_iff.mp hreferences
  have htree : treeIn selfReading.sheets ⟨0, 0, 0⟩ = some e := by
    rw [treeIn, formulaIn_selfReading, if_pos rfl]
    exact hroot
  refine mem_readIn.mpr ⟨e, htree, mem_precedentsOf.mpr ⟨.cell none (.ofIndices 0 0), ?_, ?_⟩⟩
  · rw [hreferences]
    exact List.mem_cons_self
  · cases hsheets : selfReading.sheets with
    | nil => exact absurd hsheets hw.sheets.ne_nil
    | cons ws sheets =>
      have hws := hw.sheets.each ws (hsheets ▸ List.mem_cons_self)
      have hin : ws.inBounds 0 0 = true := Worksheet.inBounds_iff.mpr ⟨hws.rows_pos, hws.cols_pos⟩
      exact Reference.mem_precedents.mpr ⟨rfl, ws, rfl, by decide, hin⟩

/-- It shows a circularity error. -/
theorem selfReading_circular :
    selfReading.Reached ∧ (∀ i, selfReading.isUpdating i = false) ∧ selfReading.PlainFormulas ∧
      valueIn selfReading.sheets ⟨0, 0, 0⟩ = .error .circular := by
  have hclosed := isUpdating_selfReading
  have htext : formulaIn selfReading.sheets ⟨0, 0, 0⟩ = some "=A1" := by
    rw [formulaIn_selfReading, if_pos rfl]
  have hcorrect := reached_correct selfReading reached_selfReading hclosed plain_selfReading
  exact ⟨reached_selfReading, hclosed, plain_selfReading,
    (hcorrect.1 _ _ htext).1 onCycle_selfReading⟩

end Workbook

end Gridcalc
