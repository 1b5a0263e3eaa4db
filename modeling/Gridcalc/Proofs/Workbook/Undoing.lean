import Gridcalc.Proofs.Workbook.Atomicity
import Gridcalc.Proofs.Workbook.Resting

/-!
# Undoing commands

What a command keeps is enough to put everything back, whatever the recalculation after it has
changed on other sheets.

* `Writes.kept`, `Writes.inputIn_eq`: what operations on cells leave alone;
* `restore_sheets`, `restore_sheet`, `restore_cell`, `restore_hiddenRows`: the four ways of putting
  back;
* `Action.restore_perform`, `Action.perform_none`, `Action.atRest_perform`: what an action that went
  through has left behind;
* `Command.executeAll`: commands one after another, with those that changed something;
* `Command.undo_exact`: a command that changed something can be taken back and carried out again,
  and so can any sequence of them.
-/

namespace Gridcalc

open Workbook

/-! ## 1. What writing leaves alone -/

namespace Workbook

variable {wb : Workbook} {cells : List (CellKey × Cell)} {key : CellKey}

/-- Cells that are put elsewhere are no matter to an input. -/
theorem inputIn_putAll_of_not (hin : ∀ x ∈ cells, wb.InGrid x.1) (hkey : ∀ x ∈ cells, x.1 ≠ key) :
    inputIn (wb.putAll cells).sheets key = inputIn wb.sheets key := by
  induction cells generalizing wb with
  | nil => rfl
  | cons x cells ih =>
    have hrest : ∀ y ∈ cells, (wb.put x.1 x.2).InGrid y.1 := fun y hy =>
      (hin y (List.mem_cons_of_mem _ hy)).of_sameFrames (sameFrames_put wb _ _).symm
    rw [putAll_cons, ih hrest fun y hy => hkey y (List.mem_cons_of_mem _ hy),
      inputIn_put (hin x List.mem_cons_self), if_neg (hkey x List.mem_cons_self)]

end Workbook

namespace Edit

variable {α : Type} {op : Edit α} {a : α} {wb wb' : Workbook} {within : CellKey → Prop}

/-- An operation on cells that goes through opens and closes no batch. -/
theorem Writes.kept (h : op.Writes wb within) (hok : op wb = .ok a wb') : wb.Kept wb' := by
  rcases h with ⟨e, he⟩ | ⟨b, hb⟩ | ⟨b, cells, seeds, -, hb⟩
  · rw [he] at hok
    cases hok
  · rw [hb] at hok
    cases hok
    exact .refl wb
  · rw [hb] at hok
    cases hok
    exact (kept_putAll wb cells).trans (kept_recalculate _ seeds)

theorem Writes.sameFrames (h : op.Writes wb within) (hw : wb.WellFormed)
    (hok : op wb = .ok a wb') : SameFrames wb'.sheets wb.sheets := by
  rcases h with ⟨e, he⟩ | ⟨b, hb⟩ | ⟨b, cells, seeds, hcells, hb⟩
  · rw [he] at hok
    cases hok
  · rw [hb] at hok
    cases hok
    exact .refl _
  · rw [hb] at hok
    cases hok
    have hput : (wb.putAll cells).WellFormed := hw.putAll fun x hx => (hcells x hx).1
    exact (sameInputs_recalculate hput seeds).frames.trans (sameFrames_putAll wb cells)

/-- Inputs outside of the places that an operation writes to stay. -/
theorem Writes.inputIn_eq (h : op.Writes wb within) (hw : wb.WellFormed)
    (hok : op wb = .ok a wb') {key : CellKey} (hkey : ¬within key) :
    inputIn wb'.sheets key = inputIn wb.sheets key := by
  rcases h with ⟨e, he⟩ | ⟨b, hb⟩ | ⟨b, cells, seeds, hcells, hb⟩
  · rw [he] at hok
    cases hok
  · rw [hb] at hok
    cases hok
    rfl
  · rw [hb] at hok
    cases hok
    have hin : ∀ x ∈ cells, wb.InGrid x.1 := fun x hx => (hcells x hx).1
    rw [(sameInputs_recalculate (hw.putAll hin) seeds).inputs]
    refine inputIn_putAll_of_not hin fun x hx e => hkey ?_
    rw [← e]
    exact (hcells x hx).2.1

theorem Writes.sound (h : op.Writes wb within) (hs : wb.Sound) (hok : op wb = .ok a wb') :
    wb'.Sound := by
  have hsteps := h.steps
  rw [after_ok hok] at hsteps
  exact hs.steps hsteps

theorem kept_editLines {i : Nat} {edit : LineEdit} (hok : editLines i edit wb = .ok () wb') :
    wb.Kept wb' := by
  obtain ⟨ws, ws', -, -, rfl⟩ := editLines_eq_ok hok
  exact ((kept_withSheet wb i ws').trans (kept_mapSheets _ _)).trans (kept_rebuild _)

end Edit

/-! ## 2. Putting back -/

section Restoring

variable {wb wb' : Workbook} {sheet : Nat} {ws : Worksheet}

theorem sheets_withSheets (wb : Workbook) (sheets : List Worksheet) :
    (wb.withSheets sheets).sheets = sheets := by
  refine List.ext_getElem? fun i => ?_
  simp only [Workbook.sheets, Workbook.withSheets, List.getElem?_map, List.getElem?_mapIdx]
  cases sheets[i]? <;> rfl

/-- Sheets are put back without opening a batch. -/
theorem closed_withSheets (hclosed : ∀ i, wb.isUpdating i = false) (sheets : List Worksheet) :
    ∀ i, (wb.withSheets sheets).isUpdating i = false := by
  intro i
  have hi := hclosed i
  unfold isUpdating withSheets at *
  rw [List.getElem?_mapIdx]
  cases sheets[i]? with
  | none => rfl
  | some ws =>
    cases htab : wb.tabs[i]? with
    | none => rfl
    | some tab =>
      rw [htab] at hi
      exact hi

/-- **All sheets** are put back. -/
theorem restore_sheets (h : wb.AtRest) (hplain : wb.PlainFormulas) (hkept : wb.Kept wb') :
    (Saved.sheets wb.sheets).restore wb' = .ok () wb := by
  have hclosed := closed_withSheets (hkept.closed h.closed) wb.sheets
  have hkept' : wb.Kept (wb'.withSheets wb.sheets) :=
    ⟨hkept.besides, fun i => (hclosed i).trans (h.closed i).symm⟩
  have hrebuilt : (wb'.withSheets wb.sheets).rebuild = wb := by
    refine h.rebuild_eq hplain hkept' ?_ ?_ ?_
    · rw [sheets_withSheets]
      exact h.wellFormed.sheets
    · rw [sheets_withSheets]
      exact h.consistent.tight
    · rw [sheets_withSheets]
      exact .refl _
  show EStateM.Result.ok () (wb'.withSheets wb.sheets).rebuild = _
  rw [hrebuilt]

/-- **One sheet** is put back, provided that the inputs on the other ones have stayed. -/
theorem restore_sheet (h : wb.AtRest) (hplain : wb.PlainFormulas) (hsound : wb'.Sound)
    (hkept : wb.Kept wb') (hws : wb.sheets[sheet]? = some ws)
    (hframes : SameFrames wb'.sheets wb.sheets)
    (helsewhere : ∀ key : CellKey, key.sheet ≠ sheet →
      inputIn wb'.sheets key = inputIn wb.sheets key) :
    (Saved.sheet sheet ws).restore wb' = .ok () wb := by
  obtain ⟨ws', hws', hframe⟩ := hframes.symm.getElem? hws
  have hlen := (List.getElem?_eq_some_iff.mp hws').1
  have hset : SameInputs (wb'.sheets.set sheet ws) wb.sheets := by
    refine ⟨(SameFrames.set hws' hframe).trans hframes, fun key => ?_⟩
    unfold inputIn at *
    rw [cellIn_set]
    by_cases hkey : sheet = key.sheet
    · rw [if_pos ⟨hkey, hlen⟩, cellIn, ← hkey, hws]
      rfl
    · rw [if_neg fun e => hkey e.1]
      exact helsewhere key fun e => hkey e.symm
  have hrebuilt : (wb'.withSheet sheet ws).rebuild = wb := by
    refine h.rebuild_eq hplain (hkept.trans (kept_withSheet wb' sheet ws)) ?_ ?_ ?_
    · rw [sheets_withSheet]
      exact hsound.wellFormed.sheets.set hws' hframe (h.wellFormed.getElem? hws)
    · rw [sheets_withSheet]
      exact tight_set hsound.consistent.tight (h.consistent.tight ws (List.mem_of_getElem? hws))
    · rw [sheets_withSheet]
      exact hset
  have hcheck : sheet < wb'.tabs.length := by simpa [Workbook.sheets] using hlen
  refine (Edit.bind_ok (Edit.checkSheet_ok hcheck)).trans ?_
  show EStateM.Result.ok () (wb'.withSheet sheet ws).rebuild = _
  rw [hrebuilt]

/-- **One cell** is put back, provided that the inputs of the other ones have stayed. -/
theorem restore_cell (h : wb.AtRest) (hplain : wb.PlainFormulas) (hsound : wb'.Sound)
    (hkept : wb.Kept wb') {key : CellKey} (hin : wb.InGrid key)
    (hframes : SameFrames wb'.sheets wb.sheets)
    (helsewhere : ∀ k, k ≠ key → inputIn wb'.sheets k = inputIn wb.sheets k) :
    (Saved.cell key (cellIn wb.sheets key)).restore wb' = .ok () wb := by
  have hin' : wb'.InGrid key := hin.of_sameFrames hframes.symm
  let put := wb'.put key ((cellIn wb.sheets key).getD {})
  have hput : Steps ⟨wb', []⟩ ⟨put, [key]⟩ := .single (.put hin' _)
  have hsteps : Steps ⟨wb', []⟩ ⟨(put.recalculate [key]).2, []⟩ :=
    hput.tail (.pass fun k hk => hk)
  have hpass := sameInputs_recalculate (hput.wellFormed hsound.wellFormed) [key]
  have hinputs : SameInputs put.sheets wb.sheets := by
    refine ⟨(sameFrames_put wb' key _).trans hframes, fun k => ?_⟩
    rw [inputIn_put hin']
    split
    · rename_i hk
      subst hk
      exact h.wellFormed.input_cellIn_unlessBlank key
    · rename_i hk
      exact helsewhere k (Ne.symm hk)
  have hback : (put.recalculate [key]).2 = wb :=
    h.eq_of_sameInputs hplain (hsound.steps hsteps)
      (hkept.trans ((kept_put wb' key _).trans (kept_recalculate put [key])))
      (hpass.trans hinputs)
  refine (Edit.bind_ok (Edit.putCell_ok hin' _)).trans ?_
  show EStateM.Result.ok () (put.recalculate [key]).2 = _
  rw [hback]

/-- The rows that were hidden within a range are those that are hidden again. -/
theorem mem_hiddenIn {range : RangeRef} {row : Nat} :
    row ∈ ws.hiddenIn range ↔
      row ∈ ws.store.hidden ∧ range.firstRow ≤ row ∧ row ≤ range.lastRow := by
  simp [Worksheet.hiddenIn, Worksheet.hiddenRows, CellStore.hiddenRows]

/-- Hiding the rows that are hidden already changes nothing. -/
theorem hideRows_eq_self {rows : List Nat} {hide : Nat → Bool}
    (h : ∀ row ∈ rows, hide row = true ↔ row ∈ ws.store.hidden) : ws.hideRows rows hide = ws := by
  have hhidden : (ws.hideRows rows hide).store.hidden = ws.store.hidden := by
    refine Std.ExtTreeSet.ext_mem fun row => ?_
    rw [Worksheet.mem_hidden_hideRows]
    split
    · exact h row ‹_›
    · rfl
  rw [Worksheet.hideRows_eq, hhidden]

/-- Hiding the rows that were hidden before gives the sheet back. -/
theorem hideRows_back {rows : List Nat} {hide hide' : Nat → Bool}
    (h : ∀ row ∈ rows, hide' row = true ↔ row ∈ ws.store.hidden) :
    (ws.hideRows rows hide).hideRows rows hide' = ws := by
  have hhidden : ((ws.hideRows rows hide).hideRows rows hide').store.hidden = ws.store.hidden := by
    refine Std.ExtTreeSet.ext_mem fun row => ?_
    rw [Worksheet.mem_hidden_hideRows]
    split
    · exact h row ‹_›
    · rename_i hrow
      rw [Worksheet.mem_hidden_hideRows, if_neg hrow]
  rw [Worksheet.hideRows_eq, hhidden, Worksheet.hideRows_eq ws]

/-- **Hidden rows** are put back. -/
theorem restore_hiddenRows {range : RangeRef} {hide : Nat → Bool}
    (hws : wb.sheets[sheet]? = some ws) (hrange : ws.containsRange range = true) :
    (Saved.hiddenRows sheet range (ws.hiddenIn range)).restore
      (wb.withSheet sheet (ws.hideRows range.rows hide)) = .ok () wb := by
  let hidden := wb.withSheet sheet (ws.hideRows range.rows hide)
  let before (row : Nat) : Bool := (Std.ExtTreeSet.ofList (ws.hiddenIn range)).contains row
  have hws' : hidden.sheets[sheet]? = some (ws.hideRows range.rows hide) :=
    getElem?_withSheet hws _
  have hcheck : sheet < hidden.tabs.length := lt_of_getElem?_sheets hws'
  have hrows : ∀ row ∈ range.rows, row < (ws.hideRows range.rows hide).rowCount := by
    rw [Worksheet.hideRows_eq]
    exact Edit.lt_rowCount_of_containsRange hrange
  have hback : (ws.hideRows range.rows hide).hideRows range.rows before = ws := by
    refine hideRows_back fun row hrow => ?_
    have hrow := RangeRef.mem_rows.mp hrow
    simp [before, mem_hiddenIn, hrow]
  refine (Edit.bind_ok (Edit.checkSheet_ok hcheck)).trans ?_
  refine (Edit.setRowsHidden_ok hws' hrows).trans ?_
  rw [hback, withSheet_withSheet, withSheet_self hws]

end Restoring

/-! ## 3. Actions that went through -/

section Actions

variable {wb wb' : Workbook} {result : Option Saved}

/-- A filter that goes through hides rows of its range, and keeps those hidden before if they are
    not the same. -/
theorem filterKeeping_eq_ok {sheet : Nat} {range : RangeRef} {op : Edit Nat}
    (h : op.Filters sheet range wb) (hrun : filterKeeping sheet range op wb = .ok result wb') :
    ∃ ws hide, wb.sheets[sheet]? = some ws ∧ ws.containsRange range = true ∧
      wb' = wb.withSheet sheet (ws.hideRows range.rows hide) ∧
      result = if ws.hiddenIn range = (ws.hideRows range.rows hide).hiddenIn range then none
        else some (.hiddenRows sheet range (ws.hiddenIn range)) := by
  obtain ⟨ws, wb₁, hget, hrest⟩ := Edit.bind_eq_ok hrun
  obtain ⟨rfl, hws⟩ := Edit.getSheet_eq_ok hget
  obtain ⟨n, wb₂, hop, hlast⟩ := Edit.bind_eq_ok hrest
  rcases h with ⟨e, he⟩ | ⟨ws', hide, m, hws', hrange, hok⟩
  · rw [he] at hop
    cases hop
  · obtain rfl : ws = ws' := Option.some.inj (hws.symm.trans hws')
    rw [hok] at hop
    cases hop
    rw [Edit.bind_ok (Edit.getSheet_ok (getElem?_withSheet hws _))] at hlast
    cases hlast
    exact ⟨ws, hide, hws, hrange, rfl, rfl⟩

/-- Sorting that finds nothing to order changes nothing. -/
theorem sort_eq_false {sheet : Nat} {range : RangeRef} {order : SortOrder} {keyCol : Nat}
    {skipHeader : Bool} (h : Edit.sort sheet range order keyCol skipHeader wb = .ok false wb') :
    wb' = wb := by
  obtain ⟨ws, wb₁, hget, hrest⟩ := Edit.bind_eq_ok h
  obtain ⟨rfl, -⟩ := Edit.getSheet_eq_ok hget
  dsimp only at hrest
  split at hrest
  · cases hrest
  split at hrest
  · cases hrest
  split at hrest
  · cases hrest
    rfl
  · obtain ⟨u, wb₂, -, hlast⟩ := Edit.bind_eq_ok hrest
    cases hlast

/-- What was typed over a cell that can be typed over; nothing, if the cell shows it already. -/
theorem setCell_eq_ok {sheet : Nat} {place : CellRef} {input : String}
    (hrun : (Action.setCell sheet place input).perform wb = .ok result wb') :
    wb.InGrid ⟨sheet, place.row, place.col⟩ ∧
      ((result = none ∧ wb' = wb ∧
          inputTextOf (cellIn wb.sheets ⟨sheet, place.row, place.col⟩) = input) ∨
        (result = some (.cell ⟨sheet, place.row, place.col⟩
            (cellIn wb.sheets ⟨sheet, place.row, place.col⟩)) ∧
          Edit.setInput sheet place.row place.col input wb = .ok () wb')) := by
  obtain ⟨ws, wb₁, hget, hrest⟩ := Edit.bind_eq_ok hrun
  obtain ⟨rfl, hws⟩ := Edit.getSheet_eq_ok hget
  obtain ⟨before, wb₂, hlift, hlast⟩ := Edit.bind_eq_ok hrest
  obtain ⟨rfl, hbefore⟩ := Edit.lift_eq_ok hlift
  cases hvalid : ws.validate place.row place.col with
  | error e =>
    rw [Worksheet.cell?, hvalid] at hbefore
    cases hbefore
  | ok u =>
    rw [Worksheet.cell?, hvalid] at hbefore
    cases hbefore
    refine ⟨⟨ws, hws, Worksheet.validate_eq_ok_iff.mp hvalid⟩, ?_⟩
    rw [cellIn_eq hws]
    split at hlast
    · rename_i hsame
      cases hlast
      exact .inl ⟨rfl, rfl, hsame⟩
    · obtain ⟨u, wb₃, hset, hend⟩ := Edit.bind_eq_ok hlast
      cases hend
      exact .inr ⟨rfl, hset⟩

/-- Pasting that goes through has kept all sheets, unless the clipboard is empty. -/
theorem paste_eq_ok {clipboard : Clipboard} {sheet : Nat} {corner : CellRef}
    (hrun : (Action.paste clipboard sheet corner).perform wb = .ok result wb') :
    (result = none ∧ wb' = wb) ∨
      (result = some (.sheets wb.sheets) ∧
        ∃ target, Edit.pasteFrom clipboard sheet corner wb = .ok target wb') := by
  cases clipboard with
  | none =>
    cases hrun
    exact .inl ⟨rfl, rfl⟩
  | some clip =>
    have hrun : (Edit.pasteFrom (some clip) sheet corner >>= fun target =>
        pure (target.map fun _ => Saved.sheets wb.sheets)) wb = .ok result wb' := hrun
    obtain ⟨target, wb₁, hpaste, hlast⟩ := Edit.bind_eq_ok hrun
    obtain ⟨range, wb₂, -, hrange⟩ := Edit.bind_eq_ok hpaste
    cases hrange
    cases hlast
    exact .inr ⟨rfl, _, hpaste⟩

theorem editLines_perform_eq_ok {sheet : Nat} {edit : LineEdit}
    (hrun : (Action.editLines sheet edit).perform wb = .ok result wb') :
    (result = none ∧ wb' = wb) ∨
      (result = some (.sheets wb.sheets) ∧ Edit.editLines sheet edit wb = .ok () wb') := by
  by_cases hcount : edit.count = 0
  · simp only [Action.perform, if_pos hcount] at hrun
    cases hrun
    exact .inl ⟨rfl, rfl⟩
  · simp only [Action.perform, if_neg hcount] at hrun
    have hrun : (Edit.editLines sheet edit >>= fun _ =>
        pure (some (Saved.sheets wb.sheets))) wb = .ok result wb' := hrun
    obtain ⟨u, wb₁, hedit, hlast⟩ := Edit.bind_eq_ok hrun
    cases hlast
    exact .inr ⟨rfl, hedit⟩

theorem sort_perform_eq_ok {sheet : Nat} {range : RangeRef} {order : SortOrder} {keyCol : Nat}
    {skipHeader : Bool}
    (hrun : (Action.sort sheet range order keyCol skipHeader).perform wb = .ok result wb') :
    (result = none ∧ wb' = wb) ∨
      ∃ ws, wb.sheets[sheet]? = some ws ∧ result = some (.sheet sheet ws) ∧
        Edit.sort sheet range order keyCol skipHeader wb = .ok true wb' := by
  obtain ⟨ws, wb₁, hget, hrest⟩ := Edit.bind_eq_ok hrun
  obtain ⟨rfl, hws⟩ := Edit.getSheet_eq_ok hget
  obtain ⟨sorted, wb₂, hsort, hlast⟩ := Edit.bind_eq_ok hrest
  cases sorted with
  | false =>
    cases hlast
    exact .inl ⟨rfl, sort_eq_false hsort⟩
  | true =>
    cases hlast
    exact .inr ⟨ws, hws, rfl, hsort⟩

/-- **What an action has kept puts everything back.** -/
theorem Action.restore_perform (a : Action) (hclips : a.ClipsTaken) (h : wb.AtRest)
    (hplain : wb.PlainFormulas) {saved : Saved} (hrun : a.perform wb = .ok (some saved) wb') :
    saved.restore wb' = .ok () wb := by
  have hfilter : ∀ {sheet range} {op : Edit Nat}, op.Filters sheet range wb →
      filterKeeping sheet range op wb = .ok (some saved) wb' → saved.restore wb' = .ok () wb := by
    intro sheet range op hop hrun
    obtain ⟨ws, hide, hws, hrange, rfl, hsaved⟩ := filterKeeping_eq_ok hop hrun
    split at hsaved
    · cases hsaved
    · cases hsaved
      exact restore_hiddenRows hws hrange
  cases a with
  | editLines sheet edit =>
    rcases editLines_perform_eq_ok hrun with ⟨hnone, -⟩ | ⟨hsaved, hedit⟩
    · cases hnone
    · cases hsaved
      exact restore_sheets h hplain (Edit.kept_editLines hedit)
  | setCell sheet place input =>
    obtain ⟨hin, ⟨hnone, -⟩ | ⟨hsaved, hset⟩⟩ := setCell_eq_ok hrun
    · cases hnone
    · cases hsaved
      have hwrites := Edit.writes_writeContents wb sheet place.row place.col (.ofInput input)
      exact restore_cell h hplain (hwrites.sound h.sound hset) (hwrites.kept hset) hin
        (hwrites.sameFrames h.wellFormed hset) fun k hk =>
        hwrites.inputIn_eq h.wellFormed hset hk
  | paste clipboard sheet corner =>
    rcases paste_eq_ok hrun with ⟨hnone, -⟩ | ⟨hsaved, target, hpaste⟩
    · cases hnone
    · cases hsaved
      have hwrites := Edit.writes_pasteFrom h.wellFormed hclips sheet corner
      exact restore_sheets h hplain (hwrites.kept hpaste)
  | sort sheet range order keyCol skipHeader =>
    rcases sort_perform_eq_ok hrun with ⟨hnone, -⟩ | ⟨ws, hws, hsaved, hsort⟩
    · cases hnone
    · cases hsaved
      have hwrites := Edit.writes_sort wb sheet range order keyCol skipHeader
      exact restore_sheet h hplain (hwrites.sound h.sound hsort) (hwrites.kept hsort) hws
        (hwrites.sameFrames h.wellFormed hsort) fun k hk =>
        hwrites.inputIn_eq h.wellFormed hsort hk
  | filter sheet range criterion => exact hfilter (Edit.filters_filter criterion) hrun
  | filterBy sheet range admits => exact hfilter (Edit.filters_filterBy admits) hrun

/-- **An action that has nothing to undo has changed nothing.** -/
theorem Action.perform_none (a : Action) (hrun : a.perform wb = .ok none wb') : wb' = wb := by
  have hfilter : ∀ {sheet range} {op : Edit Nat}, op.Filters sheet range wb →
      filterKeeping sheet range op wb = .ok none wb' → wb' = wb := by
    intro sheet range op hop hrun
    obtain ⟨ws, hide, hws, hrange, rfl, hsaved⟩ := filterKeeping_eq_ok hop hrun
    split at hsaved
    · rename_i hsame
      have hself : ws.hideRows range.rows hide = ws := by
        refine hideRows_eq_self fun row hrow => ?_
        have hmem : row ∈ ws.hiddenIn range ↔
            row ∈ (ws.hideRows range.rows hide).hiddenIn range := by rw [← hsame]
        rw [mem_hiddenIn, mem_hiddenIn, Worksheet.mem_hidden_hideRows, if_pos hrow] at hmem
        have hrow := RangeRef.mem_rows.mp hrow
        simpa [hrow] using hmem.symm
      rw [hself, withSheet_self hws]
    · cases hsaved
  cases a with
  | editLines sheet edit =>
    rcases editLines_perform_eq_ok hrun with ⟨-, hwb⟩ | ⟨hsome, -⟩
    · exact hwb
    · cases hsome
  | setCell sheet place input =>
    obtain ⟨-, ⟨-, hwb, -⟩ | ⟨hsome, -⟩⟩ := setCell_eq_ok hrun
    · exact hwb
    · cases hsome
  | paste clipboard sheet corner =>
    rcases paste_eq_ok hrun with ⟨-, hwb⟩ | ⟨hsome, -⟩
    · exact hwb
    · cases hsome
  | sort sheet range order keyCol skipHeader =>
    rcases sort_perform_eq_ok hrun with ⟨-, hwb⟩ | ⟨ws, -, hsome, -⟩
    · exact hwb
    · cases hsome
  | filter sheet range criterion => exact hfilter (Edit.filters_filter criterion) hrun
  | filterBy sheet range admits => exact hfilter (Edit.filters_filterBy admits) hrun

/-- **An action leaves a workbook at rest**, as long as the formulas that it stores are plain. -/
theorem Action.atRest_perform (a : Action) (hclips : a.ClipsTaken) (h : wb.AtRest)
    (hstable : wb.StableFormulas) (hrun : a.perform wb = .ok result wb')
    (hplain : wb'.PlainFormulas) : wb'.AtRest := by
  have hfilter : ∀ {sheet range} {op : Edit Nat}, op.Filters sheet range wb →
      filterKeeping sheet range op wb = .ok result wb' → wb'.AtRest := by
    intro sheet range op hop hrun
    obtain ⟨ws, hide, hws, hrange, rfl, -⟩ := filterKeeping_eq_ok hop hrun
    exact h.hideRows hstable hws (Edit.lt_rowCount_of_containsRange hrange)
  have hwrite : ∀ {α : Type} {op : Edit α} {b : α} {within}, op.Writes wb within →
      op wb = .ok b wb' → wb'.AtRest := fun hop hok =>
    (hop.sound h.sound hok).atRest ((hop.kept hok).closed h.closed) hplain
  cases a with
  | editLines sheet edit =>
    rcases editLines_perform_eq_ok hrun with ⟨-, rfl⟩ | ⟨-, hedit⟩
    · exact h
    · have hsteps := Edit.steps_editLines h.wellFormed sheet edit
      rw [Edit.after_ok hedit] at hsteps
      exact (h.sound.steps hsteps).atRest ((Edit.kept_editLines hedit).closed h.closed) hplain
  | setCell sheet place input =>
    obtain ⟨-, ⟨-, rfl, -⟩ | ⟨-, hset⟩⟩ := setCell_eq_ok hrun
    · exact h
    · exact hwrite (Edit.writes_writeContents wb sheet place.row place.col _) hset
  | paste clipboard sheet corner =>
    rcases paste_eq_ok hrun with ⟨-, rfl⟩ | ⟨-, target, hpaste⟩
    · exact h
    · exact hwrite (Edit.writes_pasteFrom h.wellFormed hclips sheet corner) hpaste
  | sort sheet range order keyCol skipHeader =>
    rcases sort_perform_eq_ok hrun with ⟨-, rfl⟩ | ⟨ws, -, -, hsort⟩
    · exact h
    · exact hwrite (Edit.writes_sort wb sheet range order keyCol skipHeader) hsort
  | filter sheet range criterion => exact hfilter (Edit.filters_filter criterion) hrun
  | filterBy sheet range admits => exact hfilter (Edit.filters_filterBy admits) hrun

end Actions

/-! ## 4. Commands -/

namespace Command

variable {wb wb' : Workbook} {c c' : Command}

/-- A command that changed something has kept what its action did. -/
theorem execute_eq_true (h : c.execute wb = .ok (true, c') wb') :
    ∃ saved, c.action.perform wb = .ok (some saved) wb' ∧
      c' = { c with saved := some saved } := by
  obtain ⟨result, wb₁, hperform, hlast⟩ := Edit.bind_eq_ok h
  cases result with
  | none => cases hlast
  | some saved =>
    cases hlast
    exact ⟨saved, hperform, rfl⟩

/-- A command that changed nothing has kept nothing. -/
theorem execute_eq_false (h : c.execute wb = .ok (false, c') wb') :
    c.action.perform wb = .ok none wb ∧ c' = c ∧ wb' = wb := by
  obtain ⟨result, wb₁, hperform, hlast⟩ := Edit.bind_eq_ok h
  cases result with
  | none =>
    cases hlast
    obtain rfl := c.action.perform_none hperform
    exact ⟨hperform, rfl, rfl⟩
  | some saved => cases hlast

/-- A command that changed something is taken back. -/
theorem unexecute_execute (hclips : c.action.ClipsTaken) (h : wb.AtRest)
    (hplain : wb.PlainFormulas) (hrun : c.execute wb = .ok (true, c') wb') :
    c'.unexecute wb' = .ok () wb := by
  obtain ⟨saved, hperform, rfl⟩ := execute_eq_true hrun
  exact c.action.restore_perform hclips h hplain hperform

/-- What a command does depends on its action only. -/
theorem execute_spent (hrun : c.execute wb = .ok (true, c') wb') :
    c'.spent.execute wb = .ok (true, c') wb' := by
  obtain ⟨saved, hperform, rfl⟩ := execute_eq_true hrun
  exact Edit.bind_ok hperform

/-- Carries out a command after others. Those that changed something come first, the last of them
    in front; a command that is refused is passed over. -/
def executeNext (done : List Command × Workbook) (c : Command) : List Command × Workbook :=
  match c.execute done.2 with
  | .ok (true, c') wb => (c' :: done.1, wb)
  | .ok (false, _) wb => (done.1, wb)
  | .error _ wb => (done.1, wb)

/-- Carries out commands one after another. -/
def executeAll (cs : List Command) (wb : Workbook) : List Command × Workbook :=
  cs.foldl executeNext ([], wb)

/-- One more command: the workbook stays at rest, and what could be taken back still can be. -/
theorem executeNext_invariant {done : List Command × Workbook} (hclips : c.action.ClipsTaken)
    (h : done.2.AtRest) (hstable : done.2.StableFormulas)
    (hstable' : (executeNext done c).2.StableFormulas)
    (hback : done.1.forM unexecute done.2 = .ok () wb) :
    (executeNext done c).2.AtRest ∧
      (executeNext done c).1.forM unexecute (executeNext done c).2 = .ok () wb := by
  unfold executeNext at *
  cases hrun : c.execute done.2 with
  | error e wb' =>
    obtain rfl := c.atomic_execute hclips h.wellFormed e wb' hrun
    exact ⟨h, hback⟩
  | ok result wb' =>
    obtain ⟨changed, c'⟩ := result
    rw [hrun] at hstable'
    cases changed with
    | false =>
      obtain ⟨-, -, rfl⟩ := execute_eq_false hrun
      exact ⟨h, hback⟩
    | true =>
      have hundone := unexecute_execute hclips h hstable.plain hrun
      obtain ⟨saved, hperform, -⟩ := execute_eq_true hrun
      exact ⟨c.action.atRest_perform hclips h hstable hperform hstable'.plain,
        (Edit.bind_ok hundone).trans hback⟩

/-- Any number of commands more. -/
theorem foldl_executeNext_invariant {cs : List Command} {done : List Command × Workbook}
    (hclips : ∀ c ∈ cs, c.action.ClipsTaken) (h : done.2.AtRest)
    (hstable : ∀ first, first <+: cs → (first.foldl executeNext done).2.StableFormulas)
    (hback : done.1.forM unexecute done.2 = .ok () wb) :
    (cs.foldl executeNext done).1.forM unexecute (cs.foldl executeNext done).2 = .ok () wb := by
  induction cs generalizing done with
  | nil => exact hback
  | cons c cs ih =>
    have hfirst : (executeNext done c).2.StableFormulas :=
      hstable [c] (List.prefix_append [c] cs)
    obtain ⟨hrest, hback⟩ := executeNext_invariant (hclips c List.mem_cons_self) h
      (hstable [] List.nil_prefix) hfirst hback
    refine ih (fun c' hc' => hclips c' (List.mem_cons_of_mem _ hc')) hrest (fun first hp => ?_)
      hback
    exact hstable (c :: first) (List.cons_prefix_cons.mpr ⟨rfl, hp⟩)

/-- **Undo is exact.** From a workbook at rest with stable formulas, a command that changed
    something is taken back completely: sheets with their names, sizes, hidden rows and cells,
    batches, and what is known of the formulas. Carrying it out once more leads to the same state
    and keeps the same again. Of a whole sequence of commands those that changed something can be
    taken back, the last one first, provided that the formulas stay stable. -/
theorem undo_exact (h : wb.AtRest) (hstable : wb.StableFormulas) :
    (∀ (c c' : Command) (wb' : Workbook), c.action.ClipsTaken → c.execute wb = .ok (true, c') wb' →
      c'.unexecute wb' = .ok () wb ∧ c'.spent.execute wb = .ok (true, c') wb') ∧
    ∀ cs : List Command, (∀ c ∈ cs, c.action.ClipsTaken) →
      (∀ first, first <+: cs → (executeAll first wb).2.StableFormulas) →
      (executeAll cs wb).1.forM unexecute (executeAll cs wb).2 = .ok () wb := by
  refine ⟨fun c c' wb' hclips hrun => ?_, fun cs hclips hall => ?_⟩
  · exact ⟨unexecute_execute hclips h hstable.plain hrun, execute_spent hrun⟩
  · exact foldl_executeNext_invariant hclips h hall rfl

/-- A row inserted into a new workbook. -/
theorem undo_exact_insertion :
    let wb := Workbook.create {} ⟨default, fun _ => 0⟩
    let c : Command := { action := .editLines 0 (.insertRows 0 1) }
    wb.AtRest ∧ wb.StableFormulas ∧
      (∃ c' wb', c.execute wb = .ok (true, c') wb' ∧ c'.unexecute wb' = .ok () wb) ∧
      (executeAll [c] wb).1.forM unexecute (executeAll [c] wb).2 = .ok () wb := by
  intro wb c
  have hstable : wb.StableFormulas := stableFormulas_of_none (formulaIn_create _ _)
  have hsound : wb.Sound := sound_create _ _
  have hrest : wb.AtRest := hsound.atRest (fun i => by cases i <;> rfl) hstable.plain
  have hrun : c.execute wb = .ok (true, { c with saved := some (.sheets wb.sheets) })
      (executeAll [c] wb).2 := rfl
  -- no formula is stored after the insertion either
  let ws := Worksheet.create "Sheet1" 1000 26
  let inserted := Edit.withLines wb 0 (.insertRows 0 1) ws { ws with rowCount := 1001 }
  have hstable' : (executeAll [c] wb).2.StableFormulas := by
    have hwell : SheetsWellFormed inserted.sheets :=
      Edit.sheetsWellFormed_withLines hsound.wellFormed (i := 0) rfl rfl
    have hnone : ∀ key, formulaIn inserted.sheets key = none := by
      rintro ⟨i, row, col⟩
      cases i <;> rfl
    refine stableFormulas_of_none fun key => ?_
    rw [← hnone key]
    exact (sameInputs_rebuild hwell).formulaIn_eq key
  have hboth := undo_exact hrest hstable
  refine ⟨hrest, hstable, ⟨_, _, hrun, (hboth.1 c _ _ trivial hrun).1⟩,
    hboth.2 [c] (fun _ h => by rw [List.mem_singleton.mp h]; trivial) fun first hfirst => ?_⟩
  rcases List.prefix_cons_iff.mp hfirst with rfl | ⟨rest, rfl, hrest⟩
  · exact hstable
  · obtain rfl := List.prefix_nil.mp hrest
    exact hstable'

end Command

end Gridcalc
