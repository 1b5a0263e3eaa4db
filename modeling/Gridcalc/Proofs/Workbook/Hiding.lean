import Gridcalc.Proofs.Workbook.Runs

/-!
# Hiding rows

What the filters make of a workbook: other rows of one sheet are hidden, all of them inside of the
range, and nothing else changes.

* `Worksheet.hideRows`: a sheet with some rows hidden and others shown; `mem_hidden_hideRows` says
  which rows are hidden then;
* `Edit.Filters`: an operation that is refused at once or does no more than that;
* `Edit.filters_filter`, `Edit.filters_filterBy`: the filters are such operations.
-/

namespace Gridcalc

/-! ## 1. Sheets -/

namespace Worksheet

/-- A sheet with a row hidden or shown. -/
def withHidden (ws : Worksheet) (row : Nat) (hide : Bool) : Worksheet :=
  { ws with store := ws.store.setHidden row hide }

/-- A sheet with some of its rows hidden and others shown. -/
def hideRows (ws : Worksheet) (rows : List Nat) (hide : Nat → Bool) : Worksheet :=
  rows.foldl (fun ws row => ws.withHidden row (hide row)) ws

variable {ws : Worksheet} {rows : List Nat}

theorem hideRows_congr {hide hide' : Nat → Bool} (h : ∀ row ∈ rows, hide row = hide' row) :
    ws.hideRows rows hide = ws.hideRows rows hide' := by
  induction rows generalizing ws with
  | nil => rfl
  | cons row rows ih =>
    rw [hideRows, List.foldl_cons, h row List.mem_cons_self]
    exact ih fun r hr => h r (List.mem_cons_of_mem _ hr)

/-- Only the set of hidden rows is another one. -/
theorem hideRows_eq (ws : Worksheet) (rows : List Nat) (hide : Nat → Bool) :
    ws.hideRows rows hide =
      { ws with store := { ws.store with hidden := (ws.hideRows rows hide).store.hidden } } := by
  induction rows generalizing ws with
  | nil => rfl
  | cons row rows ih => exact ih (ws.withHidden row (hide row))

theorem mem_hidden_withHidden {row r : Nat} {hide : Bool} :
    r ∈ (ws.withHidden row hide).store.hidden ↔
      if row = r then hide = true else r ∈ ws.store.hidden := by
  unfold withHidden CellStore.setHidden
  cases hide with
  | true => by_cases h : row = r <;> simp [h]
  | false => by_cases h : row = r <;> simp [h]

/-- **Which rows are hidden** after some were hidden and others shown. -/
theorem mem_hidden_hideRows {hide : Nat → Bool} {r : Nat} :
    r ∈ (ws.hideRows rows hide).store.hidden ↔
      if r ∈ rows then hide r = true else r ∈ ws.store.hidden := by
  induction rows generalizing ws with
  | nil => simp [hideRows]
  | cons row rows ih =>
    rw [hideRows, List.foldl_cons]
    refine (@ih (ws.withHidden row (hide row))).trans ?_
    by_cases hr : r ∈ rows
    · simp [hr]
    · by_cases he : row = r
      · subst he
        simp [hr, mem_hidden_withHidden]
      · simp [hr, mem_hidden_withHidden, he, Ne.symm he]

end Worksheet

namespace RowCriterion

mutual

/-- What a criterion says of a row does not depend on which rows are hidden. -/
theorem admits_withHidden (c : RowCriterion) (ws : Worksheet) (row : Nat) (hide : Bool) (r : Nat) :
    c.admits (ws.withHidden row hide) r = c.admits ws r := by
  cases c with
  | equals col v => rfl
  | greater col v => rfl
  | less col v => rfl
  | all parts => exact everyAdmits_withHidden parts ws row hide r
  | any parts => exact someAdmits_withHidden parts ws row hide r

theorem everyAdmits_withHidden (cs : List RowCriterion) (ws : Worksheet) (row : Nat) (hide : Bool)
    (r : Nat) : everyAdmits (ws.withHidden row hide) r cs = everyAdmits ws r cs := by
  cases cs with
  | nil => rfl
  | cons c cs =>
    rw [everyAdmits, everyAdmits, admits_withHidden c, everyAdmits_withHidden cs]

theorem someAdmits_withHidden (cs : List RowCriterion) (ws : Worksheet) (row : Nat) (hide : Bool)
    (r : Nat) : someAdmits (ws.withHidden row hide) r cs = someAdmits ws r cs := by
  cases cs with
  | nil => rfl
  | cons c cs => rw [someAdmits, someAdmits, admits_withHidden c, someAdmits_withHidden cs]

end

end RowCriterion

/-! ## 2. Workbooks -/

namespace Workbook

variable {wb : Workbook} {i : Nat} {ws ws' : Worksheet}

theorem withSheet_self (h : wb.sheets[i]? = some ws) : wb.withSheet i ws = wb := by
  have htabs : (wb.tabs.modify i fun tab => { tab with sheet := ws }) = wb.tabs := by
    refine List.ext_getElem? fun j => ?_
    rw [sheets, List.getElem?_map] at h
    rw [List.getElem?_modify]
    cases hj : wb.tabs[j]? with
    | none => rfl
    | some tab =>
      simp only [Option.map_eq_map, Option.map_some]
      split
      · rename_i he
        subst he
        rw [hj, Option.map_some] at h
        rw [← Option.some.inj h]
      · rfl
  unfold withSheet
  rw [htabs]

theorem withSheet_withSheet (wb : Workbook) (i : Nat) (ws ws' : Worksheet) :
    (wb.withSheet i ws).withSheet i ws' = wb.withSheet i ws' := by
  simp only [withSheet, List.modify_modify_eq]
  rfl

theorem getElem?_withSheet (h : wb.sheets[i]? = some ws) (ws' : Worksheet) :
    (wb.withSheet i ws').sheets[i]? = some ws' := by
  rw [sheets_withSheet]
  exact List.getElem?_set_self (List.getElem?_eq_some_iff.mp h).1

end Workbook

/-! ## 3. Filters -/

namespace Edit

section Rows

variable {wb : Workbook} {sheet : Nat} {ws : Worksheet} {rows : List Nat}

theorem setRowHidden_ok {row : Nat} (hws : wb.sheets[sheet]? = some ws) (hrow : row < ws.rowCount)
    (hide : Bool) :
    setRowHidden sheet row hide wb = .ok () (wb.withSheet sheet (ws.withHidden row hide)) := by
  have hset : ws.setHidden row hide = .ok (ws.withHidden row hide) := by
    rw [Worksheet.setHidden, if_neg (Nat.not_le.mpr hrow)]
    rfl
  unfold setRowHidden
  rw [bind_ok (getSheet_ok hws), hset]
  rfl

/-- Hiding and showing rows of the grid one after another. -/
theorem setRowsHidden_ok {hide : Nat → Bool} (hws : wb.sheets[sheet]? = some ws)
    (hrows : ∀ row ∈ rows, row < ws.rowCount) :
    setRowsHidden sheet rows hide wb = .ok () (wb.withSheet sheet (ws.hideRows rows hide)) := by
  induction rows generalizing wb ws with
  | nil =>
    rw [Worksheet.hideRows, List.foldl_nil, Workbook.withSheet_self hws]
    rfl
  | cons row rows ih =>
    have hrow := setRowHidden_ok hws (hrows row List.mem_cons_self) (hide row)
    have hws' := Workbook.getElem?_withSheet hws (ws.withHidden row (hide row))
    have hcons : setRowsHidden sheet (row :: rows) hide =
        (setRowHidden sheet row (hide row) >>= fun _ => setRowsHidden sheet rows hide) := rfl
    rw [hcons, bind_ok hrow, ih hws' fun r hr => hrows r (List.mem_cons_of_mem _ hr),
      Workbook.withSheet_withSheet]
    rfl

/-- A test may look at the rows above as they are by then: what it says when it comes to a row
    decides, and no row comes twice. -/
theorem hideFailing_ok (admits : Worksheet → Nat → Bool) (hws : wb.sheets[sheet]? = some ws)
    (hrows : ∀ row ∈ rows, row < ws.rowCount) (hnodup : rows.Nodup) :
    ∃ hide n, hideFailing sheet admits rows wb =
      .ok n (wb.withSheet sheet (ws.hideRows rows hide)) := by
  induction rows generalizing wb ws with
  | nil =>
    refine ⟨fun _ => false, 0, ?_⟩
    rw [Worksheet.hideRows, List.foldl_nil, Workbook.withSheet_self hws]
    rfl
  | cons row rows ih =>
    obtain ⟨hnot, hnodup⟩ := List.nodup_cons.mp hnodup
    let fails := !admits ws row
    have hrow := setRowHidden_ok hws (hrows row List.mem_cons_self) fails
    have hws' := Workbook.getElem?_withSheet hws (ws.withHidden row fails)
    obtain ⟨hide, n, hrest⟩ := ih hws' (fun r hr => hrows r (List.mem_cons_of_mem _ hr)) hnodup
    let hide' (r : Nat) : Bool := if r = row then fails else hide r
    have hfirst : ws.hideRows (row :: rows) hide' =
        (ws.withHidden row fails).hideRows rows hide := by
      have hcons : ws.hideRows (row :: rows) hide' =
          (ws.withHidden row (hide' row)).hideRows rows hide' := rfl
      rw [hcons, show hide' row = fails from if_pos rfl]
      refine Worksheet.hideRows_congr fun r hr => if_neg fun e => ?_
      subst e
      exact hnot hr
    refine ⟨hide', fails.toNat + n, ?_⟩
    rw [hfirst, hideFailing, bind_ok (getSheet_ok hws), bind_ok hrow, bind_ok hrest,
      Workbook.withSheet_withSheet]
    rfl

end Rows

section Filters

variable {wb : Workbook} {sheet : Nat} {ws : Worksheet} {range : RangeRef}

/-- A range of a sheet has its rows in the grid. -/
theorem lt_rowCount_of_containsRange (h : ws.containsRange range = true) :
    ∀ row ∈ range.rows, row < ws.rowCount := by
  intro row hrow
  have hle := (RangeRef.mem_rows.mp hrow).2
  simp only [Worksheet.containsRange, Worksheet.inBounds, Bool.and_eq_true,
    decide_eq_true_eq] at h
  omega

/-- An operation that is refused before it changes anything, or hides some of the rows of a range
    and shows the others. -/
def Filters {α : Type} (op : Edit α) (sheet : Nat) (range : RangeRef) (wb : Workbook) : Prop :=
  (∃ e, op wb = .error e wb) ∨
    ∃ ws hide a, wb.sheets[sheet]? = some ws ∧ ws.containsRange range = true ∧
      op wb = .ok a (wb.withSheet sheet (ws.hideRows range.rows hide))

theorem getSheetWith_ok (hws : wb.sheets[sheet]? = some ws)
    (hrange : ws.containsRange range = true) : getSheetWith sheet range wb = .ok ws wb := by
  rw [getSheetWith, bind_ok (getSheet_ok hws), if_pos hrange]
  rfl

/-- The sheet that a range was found to lie in. -/
theorem getSheetWith_eq_ok {wb' : Workbook} (h : getSheetWith sheet range wb = .ok ws wb') :
    wb' = wb ∧ wb.sheets[sheet]? = some ws ∧ ws.containsRange range = true := by
  unfold getSheetWith at h
  cases hws : wb.sheets[sheet]? with
  | none =>
    rw [bind_error (getSheet_error hws)] at h
    cases h
  | some ws' =>
    rw [bind_ok (getSheet_ok hws)] at h
    by_cases hrange : ws'.containsRange range = true
    · rw [if_pos hrange] at h
      cases h
      exact ⟨rfl, rfl, hrange⟩
    · rw [if_neg hrange] at h
      cases h

/-- An operation that hides rows once it is known that the range lies in its sheet. -/
theorem filters_getSheetWith_bind {α : Type} {f : Worksheet → Edit α}
    (h : ∀ ws, wb.sheets[sheet]? = some ws → ws.containsRange range = true →
      ∃ hide a, f ws wb = .ok a (wb.withSheet sheet (ws.hideRows range.rows hide))) :
    Filters (getSheetWith sheet range >>= f) sheet range wb := by
  cases hws : wb.sheets[sheet]? with
  | none => exact .inl ⟨_, bind_error (bind_error (getSheet_error hws))⟩
  | some ws =>
    by_cases hrange : ws.containsRange range = true
    · obtain ⟨hide, a, hok⟩ := h ws hws hrange
      have hget := getSheetWith_ok hws hrange
      exact .inr ⟨ws, hide, a, hws, hrange, (bind_ok hget).trans hok⟩
    · have hget : getSheetWith sheet range wb =
          .error (.invalidRange (.beyondSheet range)) wb := by
        rw [getSheetWith, bind_ok (getSheet_ok hws), if_neg hrange]
        rfl
      exact .inl ⟨_, bind_error hget⟩

/-- Hiding those rows of a range that fail on the sheet as it is at the beginning. -/
theorem filters_filterWith (fails : Worksheet → Nat → Bool) :
    Filters (getSheetWith sheet range >>= fun ws =>
      setRowsHidden sheet range.rows (fails ws)) sheet range wb :=
  filters_getSheetWith_bind fun _ hws hrange =>
    ⟨_, _, setRowsHidden_ok hws (lt_rowCount_of_containsRange hrange)⟩

theorem filters_filter (criterion : RowCriterion) :
    Filters (filter sheet range criterion) sheet range wb :=
  filters_getSheetWith_bind fun _ hws hrange =>
    ⟨_, _, bind_ok (setRowsHidden_ok hws (lt_rowCount_of_containsRange hrange))⟩

/-- A filter of a range that lies in its sheet hides the rows that fail. -/
theorem filter_ok (criterion : RowCriterion) (hws : wb.sheets[sheet]? = some ws)
    (hrange : ws.containsRange range = true) :
    filter sheet range criterion wb = .ok (range.rows.countP fun row => !criterion.admits ws row)
      (wb.withSheet sheet (ws.hideRows range.rows fun row => !criterion.admits ws row)) := by
  unfold filter
  rw [bind_ok (getSheetWith_ok hws hrange),
    bind_ok (setRowsHidden_ok hws (lt_rowCount_of_containsRange hrange))]
  rfl

theorem filters_filterBy (admits : Worksheet → Nat → Bool) :
    Filters (filterBy sheet range admits) sheet range wb :=
  filters_getSheetWith_bind fun _ hws hrange =>
    hideFailing_ok admits hws (lt_rowCount_of_containsRange hrange) List.nodup_range'

/-- A test that does not look at hidden rows says the same all along. -/
theorem hideFailing_of_stable {admits : Worksheet → Nat → Bool}
    (hstable : ∀ ws row hide r, admits (ws.withHidden row hide) r = admits ws r)
    (hws : wb.sheets[sheet]? = some ws) {rows : List Nat}
    (hrows : ∀ row ∈ rows, row < ws.rowCount) :
    hideFailing sheet admits rows wb =
      .ok (rows.countP fun row => !admits ws row)
        (wb.withSheet sheet (ws.hideRows rows fun row => !admits ws row)) := by
  induction rows generalizing wb ws with
  | nil =>
    rw [Worksheet.hideRows, List.foldl_nil, Workbook.withSheet_self hws]
    rfl
  | cons row rows ih =>
    let fails := !admits ws row
    have hrow := setRowHidden_ok hws (hrows row List.mem_cons_self) fails
    have hws' := Workbook.getElem?_withSheet hws (ws.withHidden row fails)
    have hrest := ih hws' fun r hr => hrows r (List.mem_cons_of_mem _ hr)
    simp only [hstable] at hrest
    rw [hideFailing, bind_ok (getSheet_ok hws), bind_ok hrow, bind_ok hrest,
      Workbook.withSheet_withSheet, List.countP_cons]
    have hcount : fails.toNat + rows.countP (fun row => !admits ws row) =
        rows.countP (fun row => !admits ws row) + if fails = true then 1 else 0 := by
      cases fails <;> simp [Nat.add_comm]
    rw [hcount]
    rfl

/-- **A filter by a criterion** is one by its test. -/
theorem filter_eq_filterBy (criterion : RowCriterion) :
    filter sheet range criterion wb =
      filterBy sheet range (fun ws row => criterion.admits ws row) wb := by
  unfold filterBy
  cases hget : getSheetWith sheet range wb with
  | error e wb' => rw [filter, bind_error hget, bind_error hget]
  | ok ws wb' =>
    obtain ⟨rfl, hws, hrange⟩ := getSheetWith_eq_ok hget
    rw [filter_ok criterion hws hrange, bind_ok hget,
      hideFailing_of_stable (criterion.admits_withHidden · · · ·) hws
        (lt_rowCount_of_containsRange hrange)]

end Filters

end Edit

end Gridcalc
