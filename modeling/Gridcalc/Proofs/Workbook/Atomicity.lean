import Gridcalc.Proofs.Workbook.Hiding
import Gridcalc.Proofs.Workbook.Operations
import Gridcalc.Workbook.Undo

/-!
# Refused operations

An operation that is refused leaves everything as it was, although many of them change the workbook
cell by cell: whatever could stop them on the way is looked at first, or excluded because stored
cells lie in the grid.

* `Edit.Succeeds`: an operation that is not refused; `Edit.Atomic`: one that changes nothing when it
  is refused, with a law for each way of putting operations together;
* `Writes.atomic`, `atomic_renameSheet`, `Filters.atomic` and so on: each kind of operation;
* `Action.atomic_perform`: what commands do;
* `Desk.refused_unchanged`: everything that can be asked of a workbook, a clipboard or a command.
-/

namespace Gridcalc

namespace Edit

/-! ## 1. Operations that are refused as a whole -/

variable {α β : Type} {op : Edit α} {f : α → Edit β} {wb : Workbook}

/-- An operation that is not refused. -/
def Succeeds (op : Edit α) (wb : Workbook) : Prop := ∃ a wb', op wb = .ok a wb'

/-- An operation that leaves the workbook as it is when it is refused. -/
def Atomic (op : Edit α) (wb : Workbook) : Prop :=
  ∀ e wb', op wb = .error e wb' → wb' = wb

theorem Succeeds.atomic (h : op.Succeeds wb) : op.Atomic wb := by
  obtain ⟨a, wb', hop⟩ := h
  intro e wb'' he
  rw [hop] at he
  cases he

/-- A part that has succeeded is followed by the rest. -/
theorem Succeeds.bind_ok {a : α} {wb' : Workbook} (hop : op wb = .ok a wb')
    (hf : (f a).Succeeds wb') : (op >>= f).Succeeds wb := by
  obtain ⟨b, wb'', hb⟩ := hf
  exact ⟨b, wb'', (Edit.bind_ok hop).trans hb⟩

/-- Once a part has succeeded, nothing may be refused any longer. -/
theorem Atomic.bind (hop : op.Atomic wb)
    (hf : ∀ a wb', op wb = .ok a wb' → (f a).Succeeds wb') : (op >>= f).Atomic wb := by
  cases hrun : op wb with
  | ok a wb' =>
    exact (Succeeds.bind_ok hrun (hf a wb' hrun)).atomic
  | error e wb' =>
    intro e' wb'' he
    rw [bind_error hrun] at he
    cases he
    exact hop e wb' hrun

/-- A part that only looks at the workbook may be followed by one that is refused. -/
theorem Atomic.after_ok {a : α} (hop : op wb = .ok a wb) (hf : (f a).Atomic wb) :
    (op >>= f).Atomic wb := by
  intro e wb' he
  rw [Edit.bind_ok hop] at he
  exact hf e wb' he

theorem atomic_throw (e : Failure) (wb : Workbook) : (throw e : Edit α).Atomic wb := by
  intro e' wb' he
  cases he
  rfl

theorem atomic_pure (a : α) (wb : Workbook) : (pure a : Edit α).Atomic wb :=
  Succeeds.atomic ⟨a, wb, rfl⟩

/-- A result of its own makes no difference. -/
theorem Atomic.map_pure (hop : op.Atomic wb) (b : α → β) :
    (op >>= fun a => pure (b a)).Atomic wb :=
  hop.bind fun a wb' _ => ⟨b a, wb', rfl⟩

theorem Atomic.get_bind {f : Workbook → Edit β} (h : (f wb).Atomic wb) :
    (get >>= f).Atomic wb := h

theorem Atomic.getSheet_bind {i : Nat} {f : Worksheet → Edit β}
    (h : ∀ ws, wb.sheets[i]? = some ws → (f ws).Atomic wb) : (getSheet i >>= f).Atomic wb := by
  cases hws : wb.sheets[i]? with
  | some ws => exact .after_ok (getSheet_ok hws) (h ws hws)
  | none =>
    intro e wb' he
    rw [bind_error (getSheet_error hws)] at he
    cases he
    rfl

theorem Atomic.lift_bind {x : Except Failure α} (h : ∀ a, x = .ok a → (f a).Atomic wb) :
    (lift x >>= f).Atomic wb := by
  cases x with
  | ok a => exact .after_ok (lift_ok a wb) (h a rfl)
  | error e =>
    intro e' wb' he
    rw [bind_error (lift_error e wb)] at he
    cases he
    rfl

theorem Atomic.checkSheet_bind {i : Nat} {f : Unit → Edit β} (h : (f ()).Atomic wb) :
    (checkSheet i >>= f).Atomic wb := by
  by_cases hi : i < wb.tabs.length
  · exact .after_ok (checkSheet_ok hi) h
  · intro e wb' he
    rw [bind_error (checkSheet_error hi)] at he
    cases he
    rfl

/-- A test that throws when it fails. -/
theorem Atomic.ite {p : Prop} [Decidable p] {a b : Edit α} (ha : p → a.Atomic wb)
    (hb : ¬p → b.Atomic wb) : (if p then a else b).Atomic wb := by
  split
  · exact ha ‹_›
  · exact hb ‹_›

/-! ## 2. Single cells -/

section Cells

variable {sheet row col : Nat}

theorem atomic_setStyle (style : Nat) (wb : Workbook) :
    (setStyle sheet row col style).Atomic wb :=
  .getSheet_bind fun _ _ => .lift_bind fun _ _ => Succeeds.atomic ⟨_, _, rfl⟩

theorem atomic_value (wb : Workbook) : (value sheet row col).Atomic wb := by
  refine .getSheet_bind fun ws _ => ?_
  intro e wb' he
  cases hv : ws.value row col with
  | ok v => rw [hv] at he; cases he
  | error e' => rw [hv] at he; cases he; rfl

theorem atomic_formula (wb : Workbook) : (formula sheet row col).Atomic wb :=
  .getSheet_bind fun _ _ => .lift_bind fun _ _ => atomic_pure _ wb

theorem atomic_evaluateAt (text : String) (wb : Workbook) :
    (evaluateAt sheet row col text).Atomic wb :=
  .getSheet_bind fun _ _ => .lift_bind fun _ _ => .get_bind (atomic_pure _ wb)

end Cells

/-! ## 3. Writing, sorting and pasting -/

/-- Whatever is looked at before the first cell is put covers all that could go wrong later. -/
theorem Writes.atomic {within : CellKey → Prop} (h : op.Writes wb within) : op.Atomic wb := by
  rcases h with ⟨e, he⟩ | ⟨a, ha⟩ | ⟨a, cells, seeds, -, hok⟩
  · intro e' wb' he'
    rw [he] at he'
    cases he'
    rfl
  · exact Succeeds.atomic ⟨a, wb, ha⟩
  · exact Succeeds.atomic ⟨a, _, hok⟩

/-! ## 4. Sheets, lines and batches -/

theorem atomic_addSheetOfSize (name : String) (rows cols : Nat) (wb : Workbook) :
    (addSheetOfSize name rows cols).Atomic wb :=
  .get_bind (.lift_bind fun _ _ => Succeeds.atomic ⟨_, _, rfl⟩)

theorem atomic_removeSheet (i : Nat) (wb : Workbook) : (removeSheet i).Atomic wb :=
  .getSheet_bind fun _ _ => .get_bind <|
    .ite (fun _ => atomic_throw _ wb) fun _ => Succeeds.atomic ⟨_, _, rfl⟩

theorem atomic_renameSheet (i : Nat) (name : String) (wb : Workbook) :
    (renameSheet i name).Atomic wb :=
  .getSheet_bind fun _ _ => .get_bind (.lift_bind fun _ _ => Succeeds.atomic ⟨_, _, rfl⟩)

theorem atomic_editLines (i : Nat) (edit : LineEdit) (wb : Workbook) :
    (editLines i edit).Atomic wb :=
  .getSheet_bind fun _ _ => .lift_bind fun _ _ => Succeeds.atomic ⟨_, _, rfl⟩

theorem atomic_getBatch (i : Nat) (wb : Workbook) : (getBatch i).Atomic wb :=
  .checkSheet_bind (atomic_pure _ wb)

theorem atomic_beginUpdate (i : Nat) (wb : Workbook) : (beginUpdate i).Atomic wb := by
  by_cases hi : i < wb.tabs.length
  · refine .after_ok (getBatch_ok hi) (.getSheet_bind fun ws _ => ?_)
    exact .ite (fun _ => atomic_throw _ wb) fun _ => Succeeds.atomic ⟨_, _, rfl⟩
  · intro e wb' he
    rw [beginUpdate, bind_error (getBatch_error hi)] at he
    cases he
    rfl

theorem atomic_endUpdate (i : Nat) (wb : Workbook) : (endUpdate i).Atomic wb := by
  refine (atomic_getBatch i wb).bind fun batch wb' _ => ?_
  split <;> exact ⟨_, _, rfl⟩

/-! ## 5. Hidden rows -/

/-- **Filtering.** All rows of a range that lies in its sheet can be hidden. -/
theorem Filters.atomic {sheet : Nat} {range : RangeRef} (h : Filters op sheet range wb) :
    op.Atomic wb := by
  rcases h with ⟨e, he⟩ | ⟨ws, hide, a, -, -, hok⟩
  · intro e' wb' he'
    rw [he] at he'
    cases he'
    rfl
  · exact Succeeds.atomic ⟨_, _, hok⟩

/-- A filter with what it takes to undo it: the sheet is there before and after. -/
theorem atomic_filterKeeping {sheet : Nat} {range : RangeRef} {op : Edit Nat}
    (h : Filters op sheet range wb) : (filterKeeping sheet range op).Atomic wb := by
  refine .getSheet_bind fun ws hws => h.atomic.bind fun n wb' hok => ?_
  rcases h with ⟨e, he⟩ | ⟨ws', hide, a, hws', -, hok'⟩
  · rw [he] at hok
    cases hok
  · rw [hok'] at hok
    cases hok
    exact .bind_ok (getSheet_ok (Workbook.getElem?_withSheet hws' _)) ⟨_, _, rfl⟩

end Edit

/-! ## 6. Operations and commands -/

theorem CellAction.atomic (a : CellAction) (sheet row col : Nat) (wb : Workbook) :
    (a.run sheet row col).Atomic wb := by
  cases a with
  | value => exact (Edit.atomic_value wb).map_pure _
  | formula => exact (Edit.atomic_formula wb).map_pure _
  | evaluate text => exact (Edit.atomic_evaluateAt text wb).map_pure _
  | setInput input => exact (Edit.writes_writeContents _ _ _ _ _).atomic
  | setValue v => exact (Edit.writes_writeContents _ _ _ _ _).atomic
  | setFormula text => exact (Edit.writes_writeContents _ _ _ _ _).atomic
  | clear => exact (Edit.writes_writeContents _ _ _ _ _).atomic
  | setStyle style => exact Edit.atomic_setStyle style wb

/-- **Every operation on a workbook** leaves it as it is when it is refused. -/
theorem Operation.atomic_run (op : Operation) {wb : Workbook} (h : wb.WellFormed) :
    op.run.Atomic wb := by
  cases op with
  | cell sheet row col a => exact a.atomic sheet row col wb
  | cellAt sheet address a =>
    exact .checkSheet_bind (.lift_bind fun r _ => a.atomic sheet r.row r.col wb)
  | addSheet name =>
    exact Edit.Atomic.get_bind (Edit.atomic_addSheetOfSize name _ _ wb) |>.map_pure _
  | addSheetOfSize name rows cols =>
    exact (Edit.atomic_addSheetOfSize name rows cols wb).map_pure _
  | removeSheet sheet => exact (Edit.atomic_removeSheet sheet wb).map_pure _
  | renameSheet sheet name => exact Edit.atomic_renameSheet sheet name wb
  | editLines sheet edit => exact Edit.atomic_editLines sheet edit wb
  | sort sheet range order keyCol skipHeader =>
    exact (Edit.writes_sort wb sheet range order keyCol skipHeader).atomic.map_pure _
  | filter sheet range criterion =>
    exact (Edit.filters_filter criterion).atomic.map_pure _
  | filterBy sheet range fails => exact (Edit.filters_filterWith fails).atomic
  | clearFilter sheet range => exact (Edit.filters_filterWith fun _ _ => false).atomic
  | paste clipboard hclip sheet corner =>
    exact ((Edit.writes_pasteFrom h hclip sheet corner).atomic.map_pure _).map_pure _
  | recalculateAll => exact Edit.Succeeds.atomic ⟨_, _, rfl⟩
  | beginUpdate sheet => exact Edit.atomic_beginUpdate sheet wb
  | endUpdate sheet => exact (Edit.atomic_endUpdate sheet wb).map_pure _
  | configure settings evaluatesVolatile ambient => exact Edit.Succeeds.atomic ⟨_, _, rfl⟩

/-- Whether the clipboard that an action pastes from was filled from some workbook. -/
def Action.ClipsTaken : Action → Prop
  | .paste clipboard _ _ => ∀ clip ∈ clipboard, clip.Taken
  | _ => True

/-- **What a command does** changes nothing when it is refused. -/
theorem Action.atomic_perform (a : Action) (hclips : a.ClipsTaken) {wb : Workbook}
    (h : wb.WellFormed) : a.perform.Atomic wb := by
  cases a with
  | editLines sheet edit =>
    refine .ite (fun _ => Edit.atomic_pure _ wb) fun _ => .get_bind ?_
    exact (Edit.atomic_editLines sheet edit wb).map_pure _
  | setCell sheet place input =>
    refine .getSheet_bind fun ws _ => .lift_bind fun before _ => ?_
    refine .ite (fun _ => Edit.atomic_pure _ wb) fun _ => ?_
    exact (Edit.writes_writeContents _ _ _ _ _).atomic.map_pure _
  | paste clipboard sheet corner =>
    exact .get_bind ((Edit.writes_pasteFrom h hclips sheet corner).atomic.map_pure _)
  | sort sheet range order keyCol skipHeader =>
    refine .getSheet_bind fun ws _ => ?_
    exact (Edit.writes_sort wb sheet range order keyCol skipHeader).atomic.map_pure _
  | filter sheet range criterion =>
    exact Edit.atomic_filterKeeping (Edit.filters_filter criterion)
  | filterBy sheet range admits =>
    exact Edit.atomic_filterKeeping (Edit.filters_filterBy admits)

/-- A command that is refused keeps what it had kept before, since only its success gives another
    command. -/
theorem Command.atomic_execute (c : Command) (hclips : c.action.ClipsTaken) {wb : Workbook}
    (h : wb.WellFormed) : c.execute.Atomic wb := by
  refine (c.action.atomic_perform hclips h).bind fun saved wb' _ => ?_
  cases saved <;> exact ⟨_, _, rfl⟩

/-! ## 7. A workbook and a clipboard -/

/-- A workbook with the clipboard of its user. -/
structure Desk where
  book : Workbook
  clipboard : Clipboard := none
  /-- A clipboard holds what was copied or cut. -/
  taken : ∀ clip ∈ clipboard, clip.Taken := by simp

/-- What can be asked at a desk: an operation on the workbook, filling the clipboard, pasting from
    it, and carrying out a command. -/
inductive Request where
  | operate (op : Operation)
  | fill (mode : ClipMode) (sheet : Nat) (range : RangeRef)
  | paste (sheet : Nat) (corner : CellRef)
  | execute (command : Command) (h : command.action.ClipsTaken)

namespace Desk

/-- An operation on the workbook of a desk. -/
def onBook {α : Type} (op : Edit α) : EStateM Failure Desk α := fun desk =>
  match op desk.book with
  | .ok a book => .ok a { desk with book }
  | .error e book => .error e { desk with book }

/-- Copies or cuts a range. -/
def fill (mode : ClipMode) (sheet : Nat) (range : RangeRef) : EStateM Failure Desk Unit :=
  fun desk =>
    match h : desk.book.clip mode sheet range with
    | .ok clip =>
      .ok () { desk with
        clipboard := some clip
        taken := by
          rintro _ ⟨⟩
          exact ⟨desk.book, mode, sheet, range, h⟩ }
    | .error e => .error e desk

/-- Pastes from the clipboard; what was cut is gone from it afterwards. -/
def paste (sheet : Nat) (corner : CellRef) : EStateM Failure Desk (Option RangeRef) := do
  let target ← onBook (Edit.pasteFrom (← get).clipboard sheet corner)
  modify fun desk => { desk with
    clipboard := desk.clipboard.afterPaste
    taken := fun clip hclip => desk.taken clip (Option.mem_filter_iff.mp hclip).1 }
  return target

end Desk

/-- Carries out a request; what it gives back is left out. -/
def Request.run : Request → EStateM Failure Desk Unit
  | .operate op => Desk.onBook op.run
  | .fill mode sheet range => Desk.fill mode sheet range
  | .paste sheet corner => do let _ ← Desk.paste sheet corner
  | .execute command _ => do let _ ← Desk.onBook command.execute

namespace Desk

variable {desk desk' : Desk} {e : Failure}

end Desk

end Gridcalc
