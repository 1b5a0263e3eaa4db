import Gridcalc.Proofs.Workbook.Inputs
import Gridcalc.Proofs.Workbook.Reached

/-!
# Batches and orders of writes make no difference

* `Workbook.Alongside`: two workbooks with the same inputs, whatever their formulas show;
* `Operation.alongside_applyAll`: operations on cells take the same inputs to the same inputs;
* `reached_determined`: the stored inputs determine the sheets, and writes inside a batch end in the
  same workbook as the same writes without one.
-/

namespace Gridcalc

/-! ## 1. Workbooks side by side -/

namespace Workbook

/-- Two workbooks with the same inputs, and with the same that belongs to no sheet. -/
structure Alongside (wb wb' : Workbook) : Prop where
  inputs : SameInputs wb.sheets wb'.sheets
  besides : wb.besides = wb'.besides

variable {wb wb' : Workbook} {key : CellKey}

theorem Alongside.inGrid_iff (h : wb.Alongside wb') : wb.InGrid key ↔ wb'.InGrid key :=
  ⟨fun hin => hin.of_sameFrames h.inputs.frames,
    fun hin => hin.of_sameFrames h.inputs.frames.symm⟩

theorem styleIn_eq_input (wb : Workbook) (key : CellKey) :
    Edit.styleIn wb key = ((inputIn wb.sheets key).map Cell.style).getD 0 := by
  unfold Edit.styleIn inputIn
  cases cellIn wb.sheets key <;> simp

theorem Alongside.styleIn_eq (h : wb.Alongside wb') (key : CellKey) :
    Edit.styleIn wb key = Edit.styleIn wb' key := by
  rw [styleIn_eq_input, h.inputs.inputs, styleIn_eq_input]

theorem Alongside.put (h : wb.Alongside wb') (hin : wb.InGrid key) (cell : Cell) :
    (wb.put key cell).Alongside (wb'.put key cell) := by
  refine ⟨⟨?_, fun k => ?_⟩, ?_⟩
  · exact (sameFrames_put wb key cell).trans
      (h.inputs.frames.trans (sameFrames_put wb' key cell).symm)
  · rw [inputIn_put hin, inputIn_put (h.inGrid_iff.mp hin), h.inputs.inputs]
  · rw [besides_put, besides_put, h.besides]

theorem Alongside.restyle (h : wb.Alongside wb') (hin : wb.InGrid key) (style : Nat) :
    (wb.restyle key style).Alongside (wb'.restyle key style) := by
  refine ⟨⟨?_, fun k => ?_⟩, ?_⟩
  · exact (sameFrames_restyle wb key style).trans
      (h.inputs.frames.trans (sameFrames_restyle wb' key style).symm)
  · rw [inputIn_restyle hin, inputIn_restyle (h.inGrid_iff.mp hin), h.inputs.inputs]
  · rw [besides_restyle, besides_restyle, h.besides]

/-- Passes go their own ways, but not as far as the inputs. -/
theorem Alongside.recalculate (h : wb.Alongside wb') (hw : wb.WellFormed) (hw' : wb'.WellFormed)
    (seeds seeds' : List CellKey) :
    (wb.recalculate seeds).2.Alongside (wb'.recalculate seeds').2 :=
  ⟨(sameInputs_recalculate hw seeds).trans
    (h.inputs.trans (sameInputs_recalculate hw' seeds').symm), h.besides⟩

end Workbook

/-! ## 2. Operations on cells -/

section Writes

variable {wb wb' : Workbook} {i : Nat}

open Workbook

/-- A write changes the input of its own cell only. -/
theorem inputIn_writeContents (hw : wb.WellFormed) {key : CellKey} (hin : wb.InGrid key)
    (cell : Cell) (k : CellKey) :
    inputIn ((Edit.writeContents key.sheet key.row key.col cell).after wb).sheets k =
      if key = k then (cell.input.withStyle (Edit.styleIn wb key)).unlessBlank
      else inputIn wb.sheets k := by
  rw [Edit.after_writeContents hin, (sameInputs_recalculate (hw.put hin _) _).inputs,
    inputIn_put hin, Cell.input_withStyle]

theorem sameFrames_writeContents (hw : wb.WellFormed) {key : CellKey} (hin : wb.InGrid key)
    (cell : Cell) :
    SameFrames ((Edit.writeContents key.sheet key.row key.col cell).after wb).sheets
      wb.sheets := by
  rw [Edit.after_writeContents hin]
  exact (sameInputs_recalculate (hw.put hin _) _).frames.trans (sameFrames_put wb key _)

/-- A write keeps the style of the cell. -/
theorem styleIn_writeContents (hw : wb.WellFormed) {key : CellKey} (hin : wb.InGrid key)
    (cell : Cell) :
    Edit.styleIn ((Edit.writeContents key.sheet key.row key.col cell).after wb) key =
      Edit.styleIn wb key := by
  rw [styleIn_eq_input, inputIn_writeContents hw hin, if_pos rfl]
  unfold Cell.unlessBlank
  split
  · rename_i hblank
    have e := congrArg Cell.style (Cell.isBlank_iff.mp hblank)
    exact e.symm
  · rfl

/-- Of two writes into the same cell, the first leaves nothing behind. -/
theorem sameInputs_overwrite (hw : wb.WellFormed) {key : CellKey} (hin : wb.InGrid key)
    (first last : Cell) :
    SameInputs ((Edit.writeContents key.sheet key.row key.col last).after
        ((Edit.writeContents key.sheet key.row key.col first).after wb)).sheets
      ((Edit.writeContents key.sheet key.row key.col last).after wb).sheets := by
  let between := (Edit.writeContents key.sheet key.row key.col first).after wb
  have hw' : between.WellFormed := (Edit.writes_writeContents wb _ _ _ first).steps.wellFormed hw
  have hf : SameFrames between.sheets wb.sheets := sameFrames_writeContents hw hin first
  have hin' : between.InGrid key := hin.of_sameFrames hf.symm
  have hstyle : Edit.styleIn between key = Edit.styleIn wb key :=
    styleIn_writeContents hw hin first
  refine ⟨?_, fun k => ?_⟩
  · exact (sameFrames_writeContents hw' hin' last).trans
      (hf.trans (sameFrames_writeContents hw hin last).symm)
  · rw [inputIn_writeContents hw' hin', hstyle]
    by_cases hk : key = k
    · rw [if_pos hk, inputIn_writeContents hw hin last, if_pos hk]
    · rw [if_neg hk, inputIn_writeContents hw hin last, if_neg hk]
      exact (inputIn_writeContents hw hin first k).trans (if_neg hk)

/-- An action on a cell takes the same inputs to the same inputs. -/
theorem CellAction.alongside (a : CellAction) (h : wb.Alongside wb') (hw : wb.WellFormed)
    (hw' : wb'.WellFormed) (sheet row col : Nat) :
    ((a.run sheet row col).after wb).Alongside ((a.run sheet row col).after wb') := by
  have hwrite : ∀ cell, ((Edit.writeContents sheet row col cell).after wb).Alongside
      ((Edit.writeContents sheet row col cell).after wb') := by
    intro cell
    by_cases hin : wb.InGrid ⟨sheet, row, col⟩
    · have hin' := h.inGrid_iff.mp hin
      rw [Edit.after_writeContents hin, Edit.after_writeContents hin', ← h.styleIn_eq]
      exact (h.put hin _).recalculate (hw.put hin _) (hw'.put hin' _) _ _
    · rw [Edit.after_writeContents_of_not hin,
        Edit.after_writeContents_of_not fun hin' => hin (h.inGrid_iff.mpr hin')]
      exact h
  cases a with
  | value => simpa only [CellAction.run, Edit.after_bind_pure, Edit.after_value] using h
  | formula => simpa only [CellAction.run, Edit.after_bind_pure, Edit.after_formula] using h
  | evaluate text =>
    simpa only [CellAction.run, Edit.after_bind_pure, Edit.after_evaluateAt] using h
  | setInput input => exact hwrite _
  | setValue v => exact hwrite _
  | setFormula text => exact hwrite _
  | clear => exact hwrite _
  | setStyle style =>
    by_cases hin : wb.InGrid ⟨sheet, row, col⟩
    · rw [CellAction.run, Edit.after_setStyle hin, Edit.after_setStyle (h.inGrid_iff.mp hin)]
      exact h.restyle hin style
    · rw [CellAction.run, Edit.after_setStyle_of_not hin,
        Edit.after_setStyle_of_not fun hin' => hin (h.inGrid_iff.mpr hin')]
      exact h

namespace Operation

theorem alongside_apply (op : Operation) (hop : op.onCell = true) (h : wb.Alongside wb')
    (hw : wb.WellFormed) (hw' : wb'.WellFormed) : (op.apply wb).Alongside (op.apply wb') := by
  cases op with
  | cell sheet row col a => exact a.alongside h hw hw' sheet row col
  | cellAt sheet address a =>
    rw [apply_cellAt, apply_cellAt]
    split
    · exact a.alongside h hw hw' sheet _ _
    · exact h
  | _ => cases hop

/-- A run of operations on cells takes the same inputs to the same inputs. -/
theorem alongside_applyAll {ops : List Operation} (hops : ∀ op ∈ ops, op.onCell = true)
    (h : wb.Alongside wb') (hw : wb.WellFormed) (hw' : wb'.WellFormed) :
    (applyAll ops wb).Alongside (applyAll ops wb') := by
  induction ops generalizing wb wb' with
  | nil => exact h
  | cons op ops ih =>
    have hop := hops op List.mem_cons_self
    exact ih (fun op' hop' => hops op' (List.mem_cons_of_mem _ hop'))
      (op.alongside_apply hop h hw hw') (op.wellFormed_apply hw) (op.wellFormed_apply hw')

end Operation

end Writes

/-! ## 3. Opening and closing -/

namespace Edit

open Workbook

variable {wb : Workbook} {i j : Nat}

/-- Another batch is no matter of the inputs. -/
theorem alongside_setBatch (wb : Workbook) (i : Nat) (batch : Batch) :
    (wb.setBatch i batch).Alongside wb := by
  refine ⟨?_, rfl⟩
  rw [sheets_setBatch]
  exact .refl _

theorem isUpdating_setBatch (wb : Workbook) (i j : Nat) (batch : Batch) :
    (wb.setBatch i batch).isUpdating j =
      if i = j ∧ j < wb.tabs.length then batch.isOpen else wb.isUpdating j := by
  rw [isUpdating_eq, batchAt_setBatch, isUpdating_eq]
  split <;> rfl

theorem alongside_beginUpdate (wb : Workbook) (i : Nat) :
    ((beginUpdate i).after wb).Alongside wb := by
  rcases after_beginUpdate wb i with e | e <;> rw [e]
  · exact ⟨.refl _, rfl⟩
  · exact alongside_setBatch wb i _

theorem isUpdating_beginUpdate (hj : j ≠ i) :
    ((beginUpdate i).after wb).isUpdating j = wb.isUpdating j := by
  rcases after_beginUpdate wb i with e | e <;> rw [e]
  rw [isUpdating_setBatch, if_neg fun h => hj h.1.symm]

theorem alongside_endUpdate (hw : wb.WellFormed) (i : Nat) :
    ((endUpdate i).after wb).Alongside wb := by
  rcases after_endUpdate wb i with ⟨-, e⟩ | e <;> rw [e]
  · exact ⟨.refl _, rfl⟩
  · have hclosed := alongside_setBatch wb i {}
    have hw' : (wb.setBatch i {}).WellFormed := hw.of_eq (sheets_setBatch wb i {}) rfl
    exact ⟨(sameInputs_recalculate hw' _).trans hclosed.inputs, hclosed.besides⟩

/-- Closing a batch leaves the others as they are. -/
theorem isUpdating_endUpdate (wb : Workbook) (i j : Nat) :
    ((endUpdate i).after wb).isUpdating j = (decide (j ≠ i) && wb.isUpdating j) := by
  rcases after_endUpdate wb i with ⟨hclosed, e⟩ | e <;> rw [e]
  · by_cases hj : j = i
    · rw [hj, hclosed, Bool.and_false]
    · rw [decide_eq_true hj, Bool.true_and]
  · rw [isUpdating_recalculate, isUpdating_setBatch]
    by_cases hj : j = i
    · subst hj
      by_cases hlen : j < wb.tabs.length
      · simp [hlen]
      · simp [hlen, isUpdating]
    · rw [if_neg fun h => hj h.1.symm, decide_eq_true hj, Bool.true_and]

end Edit

/-! ## 4. The same final state -/

namespace Workbook

variable {wb wb' : Workbook}

/-- **Two reached workbooks with the same inputs are the same sheets**, provided that no batch is
    open. -/
theorem Sound.sheets_eq (h : wb.Sound) (h' : wb'.Sound) (hclosed : ∀ i, wb.isUpdating i = false)
    (hclosed' : ∀ i, wb'.isUpdating i = false) (hplain : wb.PlainFormulas)
    (hinputs : SameInputs wb.sheets wb'.sheets) :
    wb.sheets = wb'.sheets ∧ (wb.besides = wb'.besides → wb = wb') := by
  have hplain' : wb'.PlainFormulas := by
    intro key text e htext hroot
    rw [← hinputs.formulaIn_eq] at htext
    exact hplain key text e htext hroot
  exact eq_of_sameInputs h.wellFormed h'.wellFormed h.consistent h'.consistent hclosed hclosed'
    (h.correct hclosed hplain) (h'.correct hclosed' hplain') hplain.tracked hinputs

/-- Writes inside a batch end in the same workbook as the same writes without one. -/
theorem Sound.batch_eq (h : wb.Sound) (hclosed : ∀ j, wb.isUpdating j = false) (i : Nat)
    {writes : List Operation} (hwrites : ∀ op ∈ writes, op.onCell = true)
    (hplain : (Operation.applyAll writes wb).PlainFormulas) :
    Operation.applyAll (.beginUpdate i :: writes ++ [.endUpdate i]) wb =
      Operation.applyAll writes wb := by
  have hhides : ∀ op ∈ writes, op.hidesRows = false := by
    intro op hop
    have hcell := hwrites op hop
    cases op <;> first | rfl | cases hcell
  let opened := (Operation.beginUpdate i).apply wb
  let written := Operation.applyAll writes opened
  have hopened : opened.Sound := h.steps (Edit.steps_beginUpdate wb i)
  have hwritten : written.Sound := hopened.applyAll hhides
  have hdirect : (Operation.applyAll writes wb).Sound := h.applyAll hhides
  have hrun : Operation.applyAll (.beginUpdate i :: writes ++ [.endUpdate i]) wb =
      (Edit.endUpdate i).after written := by
    rw [Operation.applyAll, List.foldl_append]
    exact Edit.after_bind_pure _ _ written
  have hended : ((Edit.endUpdate i).after written).Sound :=
    hwritten.steps (Edit.steps_endUpdate written i)
  -- the inputs are the same all along
  have hbegin : opened.Alongside wb := Edit.alongside_beginUpdate wb i
  have hwrite : written.Alongside (Operation.applyAll writes wb) :=
    Operation.alongside_applyAll hwrites hbegin hopened.wellFormed h.wellFormed
  have hend := Edit.alongside_endUpdate hwritten.wellFormed i
  have hclosed' : ∀ j, ((Edit.endUpdate i).after written).isUpdating j = false := by
    intro j
    rw [Edit.isUpdating_endUpdate, Operation.isUpdating_applyAll hwrites]
    by_cases hj : j = i
    · simp [hj]
    · have hkept : opened.isUpdating j = wb.isUpdating j := Edit.isUpdating_beginUpdate hj
      rw [hkept, hclosed, Bool.and_false]
  have hdirectClosed : ∀ j, (Operation.applyAll writes wb).isUpdating j = false := by
    intro j
    rw [Operation.isUpdating_applyAll hwrites, hclosed]
  rw [hrun]
  refine (((hdirect.sheets_eq hended hdirectClosed hclosed' hplain ?_).2 ?_)).symm
  · exact (hend.inputs.trans hwrite.inputs).symm
  · exact (hend.besides.trans hwrite.besides).symm

/-- **The stored inputs alone determine the cached values.** Any two reached workbooks without open
    batches, with the same names, sizes and hidden rows and with the same formulas, literals and
    styles in every cell, have the same sheets altogether. In particular, writes inside a batch
    end in the same workbook as the same writes without one. -/
theorem reached_determined :
    (∀ wb wb' : Workbook, wb.Reached → wb'.Reached → (∀ i, wb.isUpdating i = false) →
      (∀ i, wb'.isUpdating i = false) → wb.PlainFormulas → SameInputs wb.sheets wb'.sheets →
      wb.sheets = wb'.sheets) ∧
    ∀ (wb : Workbook) (i : Nat) (writes : List Operation), wb.Reached →
      (∀ j, wb.isUpdating j = false) → (∀ op ∈ writes, op.onCell = true) →
      (Operation.applyAll writes wb).PlainFormulas →
      Operation.applyAll (.beginUpdate i :: writes ++ [.endUpdate i]) wb =
        Operation.applyAll writes wb :=
  ⟨fun _ _ h h' hclosed hclosed' hplain hinputs =>
    (h.sound.sheets_eq h'.sound hclosed hclosed' hplain hinputs).1,
    fun _ i _ h hclosed hwrites hplain => h.sound.batch_eq hclosed i hwrites hplain⟩

/-- The cell that refers to itself may be written inside a batch, and over another value. -/
theorem reached_determined_selfReading :
    Operation.applyAll [.beginUpdate 0, .cell 0 0 0 (.setFormula "=A1"), .endUpdate 0]
        (create {} ⟨default, fun _ => 0⟩) = selfReading ∧
      selfReading.sheets = (Operation.applyAll [.cell 0 0 0 (.setValue (.boolean true)),
        .cell 0 0 0 (.setFormula "=A1")] (create {} ⟨default, fun _ => 0⟩)).sheets := by
  have hstart : (create {} ⟨default, fun _ => 0⟩).Reached :=
    ⟨{}, ⟨default, fun _ => 0⟩, [], by simp, rfl⟩
  have hclosed : ∀ i, (create {} ⟨default, fun _ => 0⟩).isUpdating i = false := by
    intro i
    cases i <;> rfl
  have hwrites : ∀ writes : List Operation, (∀ op ∈ writes, op.onCell = true) →
      ∀ i, (Operation.applyAll writes (create {} ⟨default, fun _ => 0⟩)).isUpdating i = false := by
    intro writes hw i
    rw [Operation.isUpdating_applyAll hw, hclosed]
  refine ⟨?_, ?_⟩
  · exact reached_determined.2 _ 0 [.cell 0 0 0 (.setFormula "=A1")] hstart hclosed
      (by simp [Operation.onCell]) plain_selfReading
  · refine reached_determined.1 _ _ reached_selfReading
      ⟨{}, ⟨default, fun _ => 0⟩, _, by simp [Operation.hidesRows], rfl⟩
      (hwrites _ (by simp [Operation.onCell])) (hwrites _ (by simp [Operation.onCell]))
      plain_selfReading ?_
    have hgrid : (create {} ⟨default, fun _ => 0⟩).InGrid ⟨0, 0, 0⟩ := ⟨_, rfl, by decide⟩
    have hoverwrite := sameInputs_overwrite (wellFormed_create _ _) hgrid
      (.ofValue (.boolean true)) (.ofFormula "=A1")
    simp only [selfReading, Operation.applyAll, List.foldl_cons, List.foldl_nil,
      apply_selfFormula]
    exact hoverwrite.symm

end Workbook

end Gridcalc
