import Gridcalc.Proofs.Workbook.Rebuilding

/-!
# Operations

Everything that can be asked of a workbook, as data.

* `CellAction`: what can be done with one cell, by indices or by a written address;
* `Operation`: all operations; `Operation.apply` is the workbook afterwards, whether or not the
  operation is refused;
* `CellAction.after_cases`: what an action leaves of the workbook;
* `Operation.steps`: every operation but the filters is made of steps, after which nothing is owed;
* `create_and_apply_wellFormed`: new workbooks are well-formed, and operations keep them so;
* `Operation.isUpdating_applyAll`: operations on cells open and close no batch.

The guard of a batch opens it when it is made and closes it when it is dropped; what happens in
between are operations of their own.
-/

namespace Gridcalc

open Relation

/-! ## 1. Operations as data -/

/-- What can be done with one cell. -/
inductive CellAction where
  | value
  | formula
  | evaluate (text : String)
  | setInput (input : String)
  | setValue (v : Value)
  | setFormula (text : String)
  | clear
  | setStyle (style : Nat)

/-- Carries out an action on the cell in a place. -/
def CellAction.run (a : CellAction) (sheet row col : Nat) : Edit Unit :=
  match a with
  | .value => do let _ ← Edit.value sheet row col
  | .formula => do let _ ← Edit.formula sheet row col
  | .evaluate text => do let _ ← Edit.evaluateAt sheet row col text
  | .setInput input => Edit.setInput sheet row col input
  | .setValue v => Edit.setValue sheet row col v
  | .setFormula text => Edit.setFormula sheet row col text
  | .clear => Edit.clearCell sheet row col
  | .setStyle style => Edit.setStyle sheet row col style

/-- What can be asked of a workbook, its sheets or a clipboard. A clipboard may have been filled
    from this or another workbook, at any time. Rows may be filtered by a criterion of one's own. -/
inductive Operation where
  | cell (sheet row col : Nat) (a : CellAction)
  | cellAt (sheet : Nat) (address : String) (a : CellAction)
  | addSheet (name : String)
  | addSheetOfSize (name : String) (rows cols : Nat)
  | removeSheet (sheet : Nat)
  | renameSheet (sheet : Nat) (name : String)
  | editLines (sheet : Nat) (edit : LineEdit)
  | sort (sheet : Nat) (range : RangeRef) (order : SortOrder) (keyCol : Nat) (skipHeader : Bool)
  | filter (sheet : Nat) (range : RangeRef) (criterion : RowCriterion)
  | filterBy (sheet : Nat) (range : RangeRef) (fails : Worksheet → Nat → Bool)
  | clearFilter (sheet : Nat) (range : RangeRef)
  | paste (clipboard : Clipboard) (h : ∀ clip ∈ clipboard, clip.Taken) (sheet : Nat)
    (corner : CellRef)
  | recalculateAll
  | beginUpdate (sheet : Nat)
  | endUpdate (sheet : Nat)
  | configure (settings : Settings) (evaluatesVolatile : Bool) (ambient : Ambient)

namespace Operation

/-- Carries out an operation; what it gives back besides the workbook is left out. -/
def run : Operation → Edit Unit
  | .cell sheet row col a => a.run sheet row col
  | .cellAt sheet address a => Edit.atAddress sheet address a.run
  | .addSheet name => do let _ ← Edit.addSheet name
  | .addSheetOfSize name rows cols => do let _ ← Edit.addSheetOfSize name rows cols
  | .removeSheet sheet => do let _ ← Edit.removeSheet sheet
  | .renameSheet sheet name => Edit.renameSheet sheet name
  | .editLines sheet edit => Edit.editLines sheet edit
  | .sort sheet range order keyCol skipHeader => do
    let _ ← Edit.sort sheet range order keyCol skipHeader
  | .filter sheet range criterion => do let _ ← Edit.filter sheet range criterion
  | .filterBy sheet range fails => do
    let ws ← Edit.getSheetWith sheet range
    Edit.setRowsHidden sheet range.rows (fails ws)
  | .clearFilter sheet range => Edit.clearFilter sheet range
  | .paste clipboard _ sheet corner => do let _ ← Edit.paste clipboard sheet corner
  | .recalculateAll => do let _ ← Edit.recalculateAll
  | .beginUpdate sheet => Edit.beginUpdate sheet
  | .endUpdate sheet => do let _ ← Edit.endUpdate sheet
  | .configure settings evaluatesVolatile ambient =>
    modify fun wb => { wb with settings, evaluatesVolatile, ambient }

/-- The workbook after an operation, whether or not it is refused. -/
def apply (op : Operation) (wb : Workbook) : Workbook := op.run.after wb

/-- The workbook after some operations. -/
def applyAll (ops : List Operation) (wb : Workbook) : Workbook :=
  ops.foldl (fun wb op => op.apply wb) wb

/-- Whether an operation hides or shows rows. -/
def hidesRows : Operation → Bool
  | .filter .. | .filterBy .. | .clearFilter .. => true
  | _ => false

/-- Whether an operation is about one cell. -/
def onCell : Operation → Bool
  | .cell .. | .cellAt .. => true
  | _ => false

end Operation

/-! ## 2. Operations as steps -/

namespace Edit

variable {wb : Workbook} {sheet row col : Nat}

/-- Looking at a cell changes nothing. -/
theorem after_value : (value sheet row col).after wb = wb := by
  unfold value
  rw [after_getSheet_bind]
  cases wb.sheets[sheet]? with
  | none => rfl
  | some ws =>
    dsimp only
    cases ws.value row col <;> rfl

theorem after_formula : (formula sheet row col).after wb = wb := by
  unfold formula
  rw [after_getSheet_bind]
  cases wb.sheets[sheet]? with
  | none => rfl
  | some ws =>
    dsimp only
    rw [after_lift_bind]
    cases ws.validate row col <;> rfl

theorem after_evaluateAt {text : String} : (evaluateAt sheet row col text).after wb = wb := by
  unfold evaluateAt
  rw [after_getSheet_bind]
  cases wb.sheets[sheet]? with
  | none => rfl
  | some ws =>
    dsimp only
    rw [after_lift_bind]
    cases ws.validate row col <;> rfl

end Edit

/-- The contents that an action puts into its cell, if it is a write. -/
def CellAction.contents? : CellAction → Option Cell
  | .setInput input => some (.ofInput input)
  | .setValue v => some (.ofValue v)
  | .setFormula text =>
    some (.ofFormula (if text.toList.head? = some '=' then text else "=" ++ text))
  | .clear => some {}
  | _ => none

theorem CellAction.run_of_contents {a : CellAction} {cell : Cell} (h : a.contents? = some cell)
    (sheet row col : Nat) : a.run sheet row col = Edit.writeContents sheet row col cell := by
  cases a <;> cases h <;> rfl

/-- **What an action leaves**: the same workbook, a cell in another style, or other contents, after
    a pass from their place. -/
theorem CellAction.after_cases (a : CellAction) (wb : Workbook) (sheet row col : Nat) :
    (a.run sheet row col).after wb = wb ∨
    (∃ style, wb.InGrid ⟨sheet, row, col⟩ ∧
      (a.run sheet row col).after wb = wb.restyle ⟨sheet, row, col⟩ style) ∨
    ∃ cell, a.contents? = some cell ∧ wb.InGrid ⟨sheet, row, col⟩ ∧
      (a.run sheet row col).after wb =
        ((wb.put ⟨sheet, row, col⟩ (cell.withStyle
          (Edit.styleIn wb ⟨sheet, row, col⟩))).recalculate [⟨sheet, row, col⟩]).2 := by
  cases hcell : a.contents? with
  | some cell =>
    rw [a.run_of_contents hcell]
    by_cases hin : wb.InGrid ⟨sheet, row, col⟩
    · exact .inr (.inr ⟨cell, rfl, hin, Edit.after_writeContents hin cell⟩)
    · exact .inl (Edit.after_writeContents_of_not hin cell)
  | none =>
    cases a with
    | value => exact .inl ((Edit.after_bind_pure _ _ wb).trans Edit.after_value)
    | formula => exact .inl ((Edit.after_bind_pure _ _ wb).trans Edit.after_formula)
    | evaluate text => exact .inl ((Edit.after_bind_pure _ _ wb).trans Edit.after_evaluateAt)
    | setStyle style =>
      by_cases hin : wb.InGrid ⟨sheet, row, col⟩
      · exact .inr (.inl ⟨style, hin, Edit.after_setStyle hin style⟩)
      · exact .inl (Edit.after_setStyle_of_not hin style)
    | _ => cases hcell

theorem CellAction.steps (a : CellAction) (wb : Workbook) (sheet row col : Nat) :
    Steps ⟨wb, []⟩ ⟨(a.run sheet row col).after wb, []⟩ := by
  rcases a.after_cases wb sheet row col with h | ⟨style, hin, h⟩ | ⟨cell, -, hin, h⟩ <;> rw [h]
  · exact .single (.restyle hin style)
  · exact (ReflTransGen.single (.put hin _)).tail (.pass fun _ hkey => hkey)

namespace Operation

variable {wb : Workbook}

/-- An action on a cell by its written address is one by its indices. -/
theorem apply_cellAt (sheet : Nat) (address : String) (a : CellAction) (wb : Workbook) :
    (cellAt sheet address a).apply wb =
      match CellRef.read address with
      | .ok r => (cell sheet r.row r.col a).apply wb
      | .error _ => wb := by
  rw [apply, run, Edit.atAddress, Edit.after_checkSheet_bind, Edit.after_lift_bind]
  by_cases hsheet : sheet < wb.tabs.length
  · rw [if_pos hsheet]
    cases CellRef.read address <;> rfl
  · rw [if_neg hsheet]
    cases CellRef.read address with
    | error e => rfl
    | ok r =>
      have hout : ¬wb.InGrid ⟨sheet, r.row, r.col⟩ := fun ⟨_, hws, _⟩ =>
        hsheet (Workbook.lt_of_getElem?_sheets hws)
      rcases a.after_cases wb sheet r.row r.col with h | ⟨_, hin, -⟩ | ⟨_, -, hin, -⟩
      · exact h.symm
      · exact absurd hin hout
      · exact absurd hin hout

/-- **An operation other than a filter is made of steps**, at the end of which nothing is owed. -/
theorem steps (op : Operation) (h : wb.WellFormed) (hop : op.hidesRows = false) :
    Steps ⟨wb, []⟩ ⟨op.apply wb, []⟩ := by
  unfold apply
  cases op with
  | cell sheet row col a => exact a.steps wb sheet row col
  | cellAt sheet address a =>
    show Steps ⟨wb, []⟩ ⟨(cellAt sheet address a).apply wb, []⟩
    rw [apply_cellAt]
    split
    · exact a.steps wb sheet _ _
    · exact .refl
  | addSheet name =>
    rw [run, Edit.after_bind_pure]
    exact Edit.steps_addSheet h name
  | addSheetOfSize name rows cols =>
    rw [run, Edit.after_bind_pure]
    exact Edit.steps_addSheetOfSize h name rows cols
  | removeSheet sheet =>
    rw [run, Edit.after_bind_pure]
    exact Edit.steps_removeSheet h sheet
  | renameSheet sheet name => exact Edit.steps_renameSheet h sheet name
  | editLines sheet edit => exact Edit.steps_editLines h sheet edit
  | sort sheet range order keyCol skipHeader =>
    rw [run, Edit.after_bind_pure]
    exact (Edit.writes_sort wb sheet range order keyCol skipHeader).steps
  | filter sheet range criterion => cases hop
  | filterBy sheet range fails => cases hop
  | clearFilter sheet range => cases hop
  | paste clipboard hclip sheet corner =>
    rw [run, Edit.after_bind_pure, Edit.paste, Edit.after_bind_pure]
    exact (Edit.writes_pasteFrom h hclip sheet corner).steps
  | recalculateAll =>
    rw [run, Edit.after_bind_pure]
    exact Edit.steps_recalculateAll wb
  | beginUpdate sheet => exact Edit.steps_beginUpdate wb sheet
  | endUpdate sheet =>
    rw [run, Edit.after_bind_pure]
    exact Edit.steps_endUpdate wb sheet
  | configure settings evaluatesVolatile ambient =>
    exact .single (.configure settings evaluatesVolatile ambient)

/-- A run of such operations is made of steps. -/
theorem steps_applyAll {ops : List Operation} (h : wb.WellFormed)
    (hops : ∀ op ∈ ops, op.hidesRows = false) : Steps ⟨wb, []⟩ ⟨applyAll ops wb, []⟩ := by
  induction ops generalizing wb with
  | nil => exact .refl
  | cons op ops ih =>
    have hop := op.steps h (hops op List.mem_cons_self)
    exact hop.trans (ih (hop.wellFormed h) fun op' hop' => hops op' (List.mem_cons_of_mem _ hop'))

/-! ## 3. Well-formed workbooks stay so -/

/-- An operation keeps a workbook well-formed. -/
theorem wellFormed_apply (op : Operation) (h : wb.WellFormed) : (op.apply wb).WellFormed := by
  cases hop : op.hidesRows with
  | false => exact (op.steps h hop).wellFormed h
  | true =>
    unfold apply
    cases op with
    | filter sheet range criterion =>
      rw [run, Edit.after_bind_pure]
      exact Edit.wellFormed_filter h sheet range criterion
    | filterBy sheet range fails => exact Edit.wellFormed_filterWith h sheet range _
    | clearFilter sheet range => exact Edit.wellFormed_clearFilter h sheet range
    | _ => cases hop

/-- A run of operations keeps a workbook well-formed. -/
theorem wellFormed_applyAll (ops : List Operation) (h : wb.WellFormed) :
    (applyAll ops wb).WellFormed := by
  induction ops generalizing wb with
  | nil => exact h
  | cons op ops ih => exact ih (op.wellFormed_apply h)

/-- **New workbooks are well-formed, and every operation keeps a workbook well-formed**, whether or
    not it is refused. -/
theorem create_and_apply_wellFormed :
    (∀ settings ambient, (Workbook.create settings ambient).WellFormed) ∧
      ∀ (wb : Workbook) (op : Operation), wb.WellFormed → (op.apply wb).WellFormed :=
  ⟨Workbook.wellFormed_create, fun _ op h => op.wellFormed_apply h⟩

/-- A sheet of a new workbook gets a name that another one has, which is refused. -/
theorem wellFormed_refused_name :
    (Workbook.create {} ⟨default, fun _ => 0⟩).WellFormed ∧
    ((Operation.addSheet "SHEET1").apply (Workbook.create {} ⟨default, fun _ => 0⟩)).WellFormed :=
  ⟨create_and_apply_wellFormed.1 _ _,
    create_and_apply_wellFormed.2 _ _ (create_and_apply_wellFormed.1 _ _)⟩

end Operation

/-! ## 4. Operations on cells open and close no batch -/

namespace Workbook

theorem isUpdating_put (wb : Workbook) (key : CellKey) (cell : Cell) (i : Nat) :
    (wb.put key cell).isUpdating i = wb.isUpdating i := by
  rw [isUpdating_eq, batchAt_put, isUpdating_eq]

theorem isUpdating_restyle (wb : Workbook) (key : CellKey) (style i : Nat) :
    (wb.restyle key style).isUpdating i = wb.isUpdating i := by
  rw [isUpdating_eq, batchAt_restyle, isUpdating_eq]

theorem isUpdating_recalculate (wb : Workbook) (seeds : List CellKey) (i : Nat) :
    (wb.recalculate seeds).2.isUpdating i = wb.isUpdating i := by
  rw [isUpdating_eq, (recalculate_batchAt wb seeds i).1, isUpdating_eq]

end Workbook

/-- An action on a cell opens and closes no batch. -/
theorem CellAction.isUpdating_after (a : CellAction) (wb : Workbook) (sheet row col i : Nat) :
    ((a.run sheet row col).after wb).isUpdating i = wb.isUpdating i := by
  rcases a.after_cases wb sheet row col with h | ⟨style, -, h⟩ | ⟨cell, -, -, h⟩ <;> rw [h]
  · rw [Workbook.isUpdating_restyle]
  · rw [Workbook.isUpdating_recalculate, Workbook.isUpdating_put]

namespace Operation

theorem isUpdating_apply (op : Operation) (hop : op.onCell = true) (wb : Workbook) (i : Nat) :
    (op.apply wb).isUpdating i = wb.isUpdating i := by
  cases op with
  | cell sheet row col a => exact a.isUpdating_after wb sheet row col i
  | cellAt sheet address a =>
    rw [apply_cellAt]
    split
    · exact a.isUpdating_after wb sheet _ _ i
    · rfl
  | _ => cases hop

theorem isUpdating_applyAll {ops : List Operation} (hops : ∀ op ∈ ops, op.onCell = true)
    (wb : Workbook) (i : Nat) : (applyAll ops wb).isUpdating i = wb.isUpdating i := by
  induction ops generalizing wb with
  | nil => rfl
  | cons op ops ih =>
    have hop := hops op List.mem_cons_self
    exact (ih (fun op' hop' => hops op' (List.mem_cons_of_mem _ hop')) _).trans
      (op.isUpdating_apply hop wb i)

end Operation

end Gridcalc
