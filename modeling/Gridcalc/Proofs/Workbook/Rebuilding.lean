import Mathlib.Data.List.InsertIdx
import Gridcalc.Proofs.Sheet.Lines
import Gridcalc.Proofs.Workbook.Runs

/-!
# Operations on sheets and batches as steps

What the operations make of a workbook that change the list of sheets, their lines or their batches.

* `steps_rebuild`: changed tabs are read anew and everything is evaluated;
* `withAdded`, `after_addSheetOfSize`: an added sheet; `withoutSheet`, `removeSheet_eq_ok`: a
  removed one;
* `SheetsWellFormed.renamed`: a sheet may get a name that no other one has;
* `steps_addSheetOfSize`, `steps_removeSheet`, `steps_renameSheet`, `steps_editLines`,
  `steps_beginUpdate`, `steps_endUpdate`: the steps of the operations;
* `wellFormed_setRowsHidden`, `wellFormed_filterWith`: hiding rows, which is no step, keeps a
  workbook well-formed.
-/

namespace Gridcalc

open Relation

/-! ## 1. Reading changed tabs -/

/-- A tab with nothing set aside. -/
def Tab.cleared (tab : Tab) : Tab := { tab with batch := { tab.batch with dirty := ∅ } }

/-- Reading the formulas of changed tabs anew, and evaluating all of them. -/
theorem steps_rebuild {wb wb' : Workbook} {owed : List CellKey}
    (he : wb' = { wb with tabs := wb'.tabs }) (h : SheetsWellFormed wb'.sheets)
    (htight : (∀ ws ∈ wb.sheets, ws.store.Tight) → ∀ ws ∈ wb'.sheets, ws.store.Tight) :
    Steps ⟨wb, owed⟩ ⟨wb'.rebuild, []⟩ := by
  have hsheets : (wb'.tabs.map Tab.cleared).map Tab.sheet = wb'.sheets := by
    rw [List.map_map]
    rfl
  let read := wb.reread (wb'.tabs.map Tab.cleared)
  have hread : Step ⟨wb, owed⟩ ⟨read, read.calcState.formulas.keys⟩ := by
    refine .reread (hsheets ▸ h) (fun tab htab => ?_) fun hall tab htab => ?_
    · obtain ⟨before, -, rfl⟩ := List.mem_map.mp htab
      rfl
    · refine htight hall _ ?_
      rw [← hsheets]
      exact List.mem_map_of_mem htab
  rw [he]
  exact (ReflTransGen.single hread).tail (.pass fun key hkey => hkey)

namespace Workbook

variable {wb : Workbook} {name : String} {except : Option Nat}

theorem sheets_mapSheets (wb : Workbook) (f : Nat → Worksheet → Worksheet) :
    (wb.mapSheets f).sheets = wb.sheets.mapIdx f := by
  refine List.ext_getElem? fun i => ?_
  simp only [sheets, mapSheets, List.getElem?_map, List.getElem?_mapIdx]
  cases wb.tabs[i]? <;> rfl

/-- A name that is accepted is valid and no other sheet has it. -/
theorem checkSheetName_ok (h : wb.checkSheetName name except = .ok ()) :
    ValidSheetName name ∧ ∀ i ws, wb.sheets[i]? = some ws → except ≠ some i →
      Text.sameIgnoringCase ws.name name = false := by
  unfold checkSheetName at h
  split at h
  · cases h
  · rename_i hfault
    refine ⟨sheetNameFault?_eq_none_iff.mp hfault, fun i ws hws hne => ?_⟩
    dsimp only at h
    split at h
    · cases h
    · rename_i htaken
      refine Bool.eq_false_iff.mpr fun hsame => htaken ?_
      rw [List.any_eq_true]
      exact ⟨(ws, i), List.mem_zipIdx_iff_getElem?.mpr hws, by simp [hne, hsame]⟩

end Workbook

/-! ## 2. The list of sheets -/

theorem exists_of_mem_mapIdx {sheets : List Worksheet} {f : Nat → Worksheet → Worksheet}
    {ws : Worksheet} (h : ws ∈ sheets.mapIdx f) : ∃ old ∈ sheets, ∃ i, ws = f i old := by
  obtain ⟨i, hi, rfl⟩ := List.mem_mapIdx.mp h
  exact ⟨_, List.getElem_mem _, i, rfl⟩

/-- A sheet gets a name that no other one has, and formulas may change everywhere. -/
theorem SheetsWellFormed.renamed {sheets sheets' : List Worksheet} (h : SheetsWellFormed sheets)
    {i : Nat} {name : String} (hvalid : ValidSheetName name)
    (hnew : ∀ j ws, sheets[j]? = some ws → j ≠ i → Text.sameIgnoringCase ws.name name = false)
    (hnames : ∀ j : Nat, (sheets'[j]?).map Worksheet.name =
      (sheets[j]?).map fun ws => if j = i then name else ws.name)
    (heach : ∀ ws ∈ sheets', ws.WellFormed) : SheetsWellFormed sheets' := by
  -- every sheet has its old name, or it is the one with the new name
  have hname : ∀ (j : Nat) ws', sheets'[j]? = some ws' →
      ∃ ws, sheets[j]? = some ws ∧ ws'.name = if j = i then name else ws.name := by
    intro j ws' hj
    have e := hnames j
    rw [hj, Option.map_some] at e
    obtain ⟨ws, hws, hn⟩ := Option.map_eq_some_iff.mp e.symm
    exact ⟨ws, hws, hn.symm⟩
  refine ⟨?_, ?_, ?_, heach⟩
  · intro e
    subst e
    have e := hnames 0
    rw [List.getElem?_nil, Option.map_none] at e
    refine h.ne_nil (List.eq_nil_iff_length_eq_zero.mpr ?_)
    have hnone := List.getElem?_eq_none_iff.mp (Option.map_eq_none_iff.mp e.symm)
    omega
  · intro ws' hws'
    obtain ⟨j, hj⟩ := List.mem_iff_getElem?.mp hws'
    obtain ⟨ws, hws, hn⟩ := hname j ws' hj
    rw [hn]
    split
    · exact hvalid
    · exact h.names_valid ws (List.mem_of_getElem? hws)
  · rw [List.pairwise_iff_getElem]
    intro a b ha hb hab
    obtain ⟨wa, hwa, hna⟩ := hname a _ (List.getElem?_eq_getElem ha)
    obtain ⟨wb, hwb, hnb⟩ := hname b _ (List.getElem?_eq_getElem hb)
    rw [hna, hnb]
    by_cases hai : a = i
    · rw [if_pos hai, if_neg (by omega), Text.sameIgnoringCase_comm]
      exact hnew b wb hwb (by omega)
    · rw [if_neg hai]
      split
      · exact hnew a wa hwa hai
      · obtain ⟨ha', rfl⟩ := List.getElem?_eq_some_iff.mp hwa
        obtain ⟨hb', rfl⟩ := List.getElem?_eq_some_iff.mp hwb
        exact List.pairwise_iff_getElem.mp h.names_differ a b ha' hb' hab

/-- The sheets after one of them has got another name and all formulas have followed. -/
def renamedSheets (sheets : List Worksheet) (i : Nat) (name : String) (relabel : String → String) :
    List Worksheet :=
  sheets.mapIdx fun j sheet =>
    if j = i then { sheet.mapFormulas relabel with name } else sheet.mapFormulas relabel

/-- What does not depend on names and formula texts holds of all sheets after a renaming. -/
theorem forall_mem_renamedSheets {P : Worksheet → Prop} {sheets : List Worksheet} {i : Nat}
    {name : String} {relabel : String → String} (hname : ∀ ws, P ws → P { ws with name })
    (hmap : ∀ ws, P ws → P (ws.mapFormulas relabel)) (h : ∀ ws ∈ sheets, P ws) :
    ∀ ws ∈ renamedSheets sheets i name relabel, P ws := by
  intro ws hws
  obtain ⟨old, hold, j, rfl⟩ := exists_of_mem_mapIdx hws
  dsimp only
  split
  · exact hname _ (hmap old (h old hold))
  · exact hmap old (h old hold)

theorem SheetsWellFormed.renamedSheets {sheets : List Worksheet} (h : SheetsWellFormed sheets)
    {i : Nat} {name : String} (hvalid : ValidSheetName name)
    (hnew : ∀ j ws, sheets[j]? = some ws → j ≠ i → Text.sameIgnoringCase ws.name name = false)
    (relabel : String → String) : SheetsWellFormed (renamedSheets sheets i name relabel) := by
  refine h.renamed hvalid hnew (fun j => ?_) ?_
  · rw [Gridcalc.renamedSheets, List.getElem?_mapIdx]
    cases sheets[j]? with
    | none => rfl
    | some old =>
      simp only [Option.map_some]
      split <;> rfl
  · exact forall_mem_renamedSheets (fun _ hws => hws.rename name)
      (fun _ hws => hws.mapFormulas relabel) h.each

/-- The sheets after one of them was replaced and all formulas have followed, each in a way of its
    sheet. -/
def followedSheets (sheets : List Worksheet) (i : Nat) (ws : Worksheet)
    (follow : Nat → String → String) : List Worksheet :=
  (sheets.set i ws).mapIdx fun j sheet => sheet.mapFormulas (follow j)

theorem forall_mem_followedSheets {P : Worksheet → Prop} {sheets : List Worksheet} {i : Nat}
    {ws : Worksheet} {follow : Nat → String → String} (hws : P ws)
    (hmap : ∀ ws relabel, P ws → P (ws.mapFormulas relabel)) (h : ∀ ws ∈ sheets, P ws) :
    ∀ ws' ∈ followedSheets sheets i ws follow, P ws' := by
  intro ws' hws'
  obtain ⟨old, hold, j, rfl⟩ := exists_of_mem_mapIdx hws'
  refine hmap old _ ?_
  rcases List.mem_or_eq_of_mem_set hold with hold | rfl
  · exact h old hold
  · exact hws

theorem map_name_followedSheets {sheets : List Worksheet} {i : Nat} {ws ws' : Worksheet}
    (hi : sheets[i]? = some ws) (hname : ws'.name = ws.name) (follow : Nat → String → String) :
    (followedSheets sheets i ws' follow).map Worksheet.name = sheets.map Worksheet.name := by
  rw [← map_set_of_eq hi hname]
  refine List.ext_getElem? fun j => ?_
  rw [followedSheets, List.getElem?_map, List.getElem?_mapIdx, List.getElem?_map, Option.map_map]
  rfl

namespace Edit

open Workbook

variable {wb : Workbook}

/-- The workbook with an empty sheet behind the others, not yet read anew. -/
def withAdded (wb : Workbook) (name : String) (rows cols : Nat) : Workbook :=
  { wb with tabs := wb.tabs ++ [{ sheet := Worksheet.create name rows cols }] }

theorem sheets_withAdded (wb : Workbook) (name : String) (rows cols : Nat) :
    (withAdded wb name rows cols).sheets = wb.sheets ++ [Worksheet.create name rows cols] :=
  List.map_append

theorem sheetsWellFormed_withAdded (h : wb.WellFormed) {name : String}
    (hname : wb.checkSheetName name none = .ok ()) (rows cols : Nat) :
    SheetsWellFormed (withAdded wb name rows cols).sheets := by
  obtain ⟨hvalid, hnew⟩ := Workbook.checkSheetName_ok hname
  rw [sheets_withAdded]
  refine h.sheets.append (Worksheet.wellFormed_create _ _ _) hvalid fun ws hws => ?_
  obtain ⟨i, hi⟩ := List.mem_iff_getElem?.mp hws
  exact hnew i ws hi (by simp)

/-- A sheet is added unless the name is refused. -/
theorem after_addSheetOfSize (name : String) (rows cols : Nat) (wb : Workbook) :
    (addSheetOfSize name rows cols).after wb = wb ∨
      wb.checkSheetName name none = .ok () ∧
        (addSheetOfSize name rows cols).after wb = (withAdded wb name rows cols).rebuild := by
  rw [addSheetOfSize, after_get_bind, after_lift_bind]
  cases hname : wb.checkSheetName name none with
  | error e => exact .inl rfl
  | ok u => exact .inr ⟨rfl, rfl⟩

theorem steps_addSheetOfSize (h : wb.WellFormed) (name : String) (rows cols : Nat) :
    Steps ⟨wb, []⟩ ⟨(addSheetOfSize name rows cols).after wb, []⟩ := by
  rcases after_addSheetOfSize name rows cols wb with e | ⟨hname, e⟩ <;> rw [e]
  refine steps_rebuild rfl (sheetsWellFormed_withAdded h hname rows cols) fun htight => ?_
  rw [sheets_withAdded]
  refine List.forall_mem_append.mpr ⟨htight, fun ws hws => ?_⟩
  rw [List.mem_singleton.mp hws]
  exact CellStore.tight_empty

theorem steps_addSheet (h : wb.WellFormed) (name : String) :
    Steps ⟨wb, []⟩ ⟨(addSheet name).after wb, []⟩ := by
  rw [addSheet, after_get_bind]
  exact steps_addSheetOfSize h name _ _

/-- The workbook without a sheet, not yet read anew. -/
def withoutSheet (wb : Workbook) (i : Nat) : Workbook := { wb with tabs := wb.tabs.eraseIdx i }

/-- A sheet is taken out unless there is no such sheet or it is the last one. -/
theorem removeSheet_eq_ok {i : Nat} {ws : Worksheet} {wb' : Workbook}
    (h : removeSheet i wb = .ok ws wb') :
    wb.sheets[i]? = some ws ∧ wb.tabs.length ≠ 1 ∧ wb' = (withoutSheet wb i).rebuild := by
  obtain ⟨ws', wb₁, hget, hrest⟩ := bind_eq_ok h
  obtain ⟨rfl, hws⟩ := getSheet_eq_ok hget
  obtain ⟨wb₂, wb₃, hwb, hrest⟩ := bind_eq_ok hrest
  cases hwb
  split at hrest
  · cases hrest
  · rename_i hmany
    cases hrest
    exact ⟨hws, hmany, rfl⟩

theorem sheets_withoutSheet (wb : Workbook) (i : Nat) :
    (withoutSheet wb i).sheets = wb.sheets.eraseIdx i :=
  (List.eraseIdx_map _ _ _).symm

theorem sheetsWellFormed_withoutSheet (h : wb.WellFormed) {i : Nat} {ws : Worksheet}
    (hws : wb.sheets[i]? = some ws) (hmany : wb.tabs.length ≠ 1) :
    SheetsWellFormed (withoutSheet wb i).sheets := by
  rw [sheets_withoutSheet]
  refine h.sheets.sublist (List.eraseIdx_sublist _ _) fun hnil => ?_
  have hi := (List.getElem?_eq_some_iff.mp hws).1
  have hlen := congrArg List.length hnil
  rw [List.length_eraseIdx_of_lt hi, List.length_nil, Workbook.sheets, List.length_map] at hlen
  rw [Workbook.sheets, List.length_map] at hi
  omega

theorem steps_removeSheet (h : wb.WellFormed) (i : Nat) :
    Steps ⟨wb, []⟩ ⟨(removeSheet i).after wb, []⟩ := by
  rw [removeSheet, after_getSheet_bind]
  cases hws : wb.sheets[i]? with
  | none => exact .refl
  | some ws =>
    dsimp only
    rw [after_get_bind]
    split
    · exact .refl
    · rename_i hmany
      show Steps ⟨wb, []⟩ ⟨(withoutSheet wb i).rebuild, []⟩
      refine steps_rebuild rfl (sheetsWellFormed_withoutSheet h hws hmany) fun htight ws' hws' => ?_
      rw [sheets_withoutSheet] at hws'
      exact htight ws' (List.mem_of_mem_eraseIdx hws')

/-- The workbook with another name of a sheet, which all formulas have followed, not yet read. -/
def withName (wb : Workbook) (i : Nat) (old name : String) : Workbook :=
  (wb.mapSheets fun _ sheet => sheet.mapFormulas (renameInFormula old name)).mapSheets
    fun j sheet => if j = i then { sheet with name } else sheet

theorem sheets_withName (wb : Workbook) (i : Nat) (old name : String) :
    (withName wb i old name).sheets =
      renamedSheets wb.sheets i name (renameInFormula old name) := by
  rw [withName, Workbook.sheets_mapSheets, Workbook.sheets_mapSheets, List.mapIdx_mapIdx]
  rfl

/-- A sheet gets another name unless there is no such sheet or the name is refused. -/
theorem renameSheet_eq_ok {i : Nat} {name : String} {wb' : Workbook}
    (h : renameSheet i name wb = .ok () wb') :
    ∃ ws, wb.sheets[i]? = some ws ∧ wb.checkSheetName name (some i) = .ok () ∧
      wb' = (withName wb i ws.name name).rebuild := by
  obtain ⟨ws, wb₁, hget, hrest⟩ := bind_eq_ok h
  obtain ⟨rfl, hws⟩ := getSheet_eq_ok hget
  have hrest : (lift (wb₁.checkSheetName name (some i)) >>= fun _ => do
      set (withName wb₁ i ws.name name)
      rebuild : Edit Unit) wb₁ = .ok () wb' := hrest
  obtain ⟨u, wb₂, hlift, hlast⟩ := bind_eq_ok hrest
  obtain ⟨rfl, hname⟩ := lift_eq_ok hlift
  cases hlast
  exact ⟨ws, hws, hname, rfl⟩

theorem sheetsWellFormed_withName (h : wb.WellFormed) {i : Nat} {name : String}
    (hname : wb.checkSheetName name (some i) = .ok ()) (old : String) :
    SheetsWellFormed (withName wb i old name).sheets := by
  obtain ⟨hvalid, hnew⟩ := Workbook.checkSheetName_ok hname
  rw [sheets_withName]
  exact h.sheets.renamedSheets hvalid
    (fun j other hj hne => hnew j other hj fun e => hne (Option.some.inj e).symm) _

theorem steps_renameSheet (h : wb.WellFormed) (i : Nat) (name : String) :
    Steps ⟨wb, []⟩ ⟨(renameSheet i name).after wb, []⟩ := by
  rw [renameSheet, after_getSheet_bind]
  cases hws : wb.sheets[i]? with
  | none => exact .refl
  | some ws =>
    dsimp only
    rw [after_get_bind, after_lift_bind]
    cases hname : wb.checkSheetName name (some i) with
    | error e => exact .refl
    | ok u =>
      show Steps ⟨wb, []⟩ ⟨(withName wb i ws.name name).rebuild, []⟩
      refine steps_rebuild rfl (sheetsWellFormed_withName h hname ws.name) fun htight => ?_
      rw [sheets_withName]
      exact forall_mem_renamedSheets (fun _ ht => ht)
        (fun _ ht => Worksheet.tight_mapFormulas ht _) htight

/-- The workbook with another sheet after an insertion or deletion, its formulas not yet read. -/
def withLines (wb : Workbook) (i : Nat) (edit : LineEdit) (ws ws' : Worksheet) : Workbook :=
  (wb.withSheet i ws').mapSheets fun j sheet => sheet.mapFormulas (followEdit edit ws.name (j = i))

theorem sheets_withLines (wb : Workbook) (i : Nat) (edit : LineEdit) (ws ws' : Worksheet) :
    (withLines wb i edit ws ws').sheets =
      followedSheets wb.sheets i ws' fun j => followEdit edit ws.name (j = i) := by
  rw [withLines, Workbook.sheets_mapSheets, Workbook.sheets_withSheet]
  rfl

/-- Lines are inserted or deleted unless there is no such sheet or that is refused. -/
theorem editLines_eq_ok {i : Nat} {edit : LineEdit} {wb' : Workbook}
    (h : editLines i edit wb = .ok () wb') :
    ∃ ws ws', wb.sheets[i]? = some ws ∧ ws.applyEdit edit = .ok ws' ∧
      wb' = (withLines wb i edit ws ws').rebuild := by
  obtain ⟨ws, wb₁, hget, hrest⟩ := bind_eq_ok h
  obtain ⟨rfl, hws⟩ := getSheet_eq_ok hget
  obtain ⟨ws', wb₂, hlift, hlast⟩ := bind_eq_ok hrest
  obtain ⟨rfl, hedit⟩ := lift_eq_ok hlift
  cases hlast
  exact ⟨ws, ws', hws, hedit, rfl⟩

theorem sheetsWellFormed_withLines (h : wb.WellFormed) {i : Nat} {edit : LineEdit}
    {ws ws' : Worksheet} (hws : wb.sheets[i]? = some ws) (hedit : ws.applyEdit edit = .ok ws') :
    SheetsWellFormed (withLines wb i edit ws ws').sheets := by
  have hname := Worksheet.name_applyEdit (h.getElem? hws) hedit
  rw [sheets_withLines]
  refine h.sheets.congr (map_name_followedSheets hws hname _) ?_
  exact forall_mem_followedSheets ((h.getElem? hws).applyEdit hedit)
    (fun _ relabel hx => hx.mapFormulas relabel) h.sheets.each

theorem tight_withLines (h : wb.WellFormed) (htight : ∀ ws ∈ wb.sheets, ws.store.Tight) {i : Nat}
    {edit : LineEdit} {ws ws' : Worksheet} (hws : wb.sheets[i]? = some ws)
    (hedit : ws.applyEdit edit = .ok ws') :
    ∀ x ∈ (withLines wb i edit ws ws').sheets, x.store.Tight := by
  have hkept := Worksheet.tight_applyEdit (h.getElem? hws).contained hedit
  rw [sheets_withLines]
  exact forall_mem_followedSheets (hkept (htight ws (List.mem_of_getElem? hws)))
    (fun _ relabel ht => Worksheet.tight_mapFormulas ht relabel) htight

theorem steps_editLines (h : wb.WellFormed) (i : Nat) (edit : LineEdit) :
    Steps ⟨wb, []⟩ ⟨(editLines i edit).after wb, []⟩ := by
  rw [editLines, after_getSheet_bind]
  cases hws : wb.sheets[i]? with
  | none => exact .refl
  | some ws =>
    dsimp only
    rw [after_lift_bind]
    cases hedit : ws.applyEdit edit with
    | error e => exact .refl
    | ok ws' =>
      show Steps ⟨wb, []⟩ ⟨(withLines wb i edit ws ws').rebuild, []⟩
      exact steps_rebuild rfl (sheetsWellFormed_withLines h hws hedit) fun htight =>
        tight_withLines h htight hws hedit

/-! ## 3. Batches -/

theorem checkSheet_ok {i : Nat} (h : i < wb.tabs.length) : checkSheet i wb = .ok () wb := by
  have hget : (get : Edit Workbook) wb = .ok wb wb := rfl
  refine (bind_ok hget).trans ?_
  rw [if_neg (Nat.not_le.mpr h)]
  rfl

theorem checkSheet_error {i : Nat} (h : ¬i < wb.tabs.length) :
    checkSheet i wb = .error (.sheetOutOfBounds i wb.tabs.length) wb := by
  have hget : (get : Edit Workbook) wb = .ok wb wb := rfl
  refine (bind_ok hget).trans ?_
  rw [if_pos (Nat.not_lt.mp h)]
  rfl

theorem checkSheet_eq_ok {i : Nat} {wb' : Workbook} (h : checkSheet i wb = .ok () wb') :
    wb' = wb := by
  by_cases hi : i < wb.tabs.length
  · rw [checkSheet_ok hi] at h
    cases h
    rfl
  · rw [checkSheet_error hi] at h
    cases h

/-- An operation that begins with checking that there is a sheet. -/
theorem after_checkSheet_bind {β : Type} (i : Nat) (f : Unit → Edit β) (wb : Workbook) :
    (checkSheet i >>= f).after wb = if i < wb.tabs.length then (f ()).after wb else wb := by
  rw [after_bind]
  by_cases h : i < wb.tabs.length
  · rw [checkSheet_ok h, if_pos h]
  · rw [checkSheet_error h, if_neg h]

theorem getBatch_ok {i : Nat} (h : i < wb.tabs.length) :
    getBatch i wb = .ok (wb.batchAt i) wb :=
  bind_ok (checkSheet_ok h)

theorem getBatch_error {i : Nat} (h : ¬i < wb.tabs.length) :
    getBatch i wb = .error (.sheetOutOfBounds i wb.tabs.length) wb :=
  bind_error (checkSheet_error h)

/-- Opening a batch is refused if it is open already or there is no such sheet. -/
theorem after_beginUpdate (wb : Workbook) (i : Nat) :
    (beginUpdate i).after wb = wb ∨
      (beginUpdate i).after wb = wb.setBatch i { wb.batchAt i with isOpen := true } := by
  rw [beginUpdate, after_bind]
  by_cases hi : i < wb.tabs.length
  · rw [getBatch_ok hi]
    dsimp only
    rw [after_getSheet_bind]
    split
    · split
      · exact .inl rfl
      · exact .inr rfl
    · exact .inl rfl
  · rw [getBatch_error hi]
    exact .inl rfl

/-- Closing a batch evaluates what was set aside; where none is open, nothing happens. -/
theorem after_endUpdate (wb : Workbook) (i : Nat) :
    (wb.isUpdating i = false ∧ (endUpdate i).after wb = wb) ∨
      (endUpdate i).after wb =
        ((wb.setBatch i {}).recalculate (wb.batchAt i).dirty.toList).2 := by
  rw [endUpdate, after_bind, Workbook.isUpdating_eq]
  by_cases hi : i < wb.tabs.length
  · rw [getBatch_ok hi]
    dsimp only
    split
    · exact .inr rfl
    · rename_i hopen
      exact .inl ⟨Bool.eq_false_iff.mpr hopen, rfl⟩
  · rw [getBatch_error hi]
    have hnone : wb.batchAt i = {} := by
      simp [Workbook.batchAt, List.getElem?_eq_none (Nat.le_of_not_lt hi)]
    exact .inl ⟨by rw [hnone], rfl⟩

theorem steps_beginUpdate (wb : Workbook) (i : Nat) :
    Steps ⟨wb, []⟩ ⟨(beginUpdate i).after wb, []⟩ := by
  rcases after_beginUpdate wb i with e | e <;> rw [e]
  exact .single (.openBatch i)

theorem steps_endUpdate (wb : Workbook) (i : Nat) :
    Steps ⟨wb, []⟩ ⟨(endUpdate i).after wb, []⟩ := by
  rcases after_endUpdate wb i with ⟨-, e⟩ | e <;> rw [e]
  have hclose : Step ⟨wb, []⟩ ⟨wb.setBatch i {}, (wb.batchAt i).dirty.toList ++ []⟩ :=
    .closeBatch i
  exact (ReflTransGen.single hclose).tail (.pass fun key hkey => by simpa using hkey)

theorem steps_recalculateAll (wb : Workbook) :
    Steps ⟨wb, []⟩ ⟨recalculateAll.after wb, []⟩ :=
  .single (.pass fun _ hkey => absurd hkey List.not_mem_nil)

end Edit

/-! ## 4. Hidden rows -/

namespace Workbook

variable {wb : Workbook} {i row : Nat} {hide : Bool} {ws ws' : Worksheet}

/-- Hiding a row changes neither what is stored nor what formulas read. -/
theorem WellFormed.withHidden (h : wb.WellFormed) (hi : wb.sheets[i]? = some ws)
    (hs : ws.setHidden row hide = .ok ws') : (wb.withSheet i ws').WellFormed := by
  have hws' := (h.getElem? hi).setHidden hs
  obtain ⟨hname, houtline, hstored⟩ := Worksheet.setHidden_keeps hs
  have houtlines : wb.sheets.map Worksheet.outline =
      (wb.sheets.set i ws').map Worksheet.outline := (map_set_of_eq hi houtline).symm
  refine ⟨?_, fun key => ?_⟩
  · rw [sheets_withSheet]
    refine h.sheets.congr (map_set_of_eq hi hname) fun x hx => ?_
    rcases List.mem_or_eq_of_mem_set hx with hx | rfl
    · exact h.sheets.each x hx
    · exact hws'
  · rw [sheets_withSheet]
    refine (h.known key).of_outlines houtlines ?_
    unfold formulaIn
    rw [cellIn_set]
    split
    · rename_i hkey
      have hi' : wb.sheets[key.sheet]? = some ws := hkey.1 ▸ hi
      rw [cellIn_eq hi', hstored]
    · rfl

end Workbook

namespace Edit

variable {wb : Workbook}

/-- **Hiding and showing rows** keeps a workbook well-formed, wherever it stops. -/
theorem wellFormed_setRowsHidden (h : wb.WellFormed) (sheet : Nat) (rows : List Nat)
    (hide : Nat → Bool) : ((setRowsHidden sheet rows hide).after wb).WellFormed := by
  induction rows generalizing wb with
  | nil => exact h
  | cons row rows ih =>
    have hstep : ((setRowHidden sheet row (hide row)).after wb).WellFormed := by
      rw [setRowHidden, after_getSheet_bind]
      cases hws : wb.sheets[sheet]? with
      | none => exact h
      | some ws =>
        dsimp only
        rw [after_lift_bind]
        cases hs : ws.setHidden row (hide row) with
        | error e => exact h
        | ok ws' => exact h.withHidden hws hs
    have hcons : setRowsHidden sheet (row :: rows) hide =
        (setRowHidden sheet row (hide row) >>= fun _ => setRowsHidden sheet rows hide) := rfl
    rw [hcons, after_bind]
    unfold after at hstep
    cases hrow : setRowHidden sheet row (hide row) wb with
    | ok u wb' =>
      rw [hrow] at hstep
      exact ih hstep
    | error e wb' =>
      rw [hrow] at hstep
      exact hstep

/-- An operation that begins with checking that a range lies in its sheet. -/
theorem after_getSheetWith_bind {β : Type} {sheet : Nat} {range : RangeRef}
    (f : Worksheet → Edit β) (wb : Workbook) :
    (getSheetWith sheet range >>= f).after wb = wb ∨
      ∃ ws, (getSheetWith sheet range >>= f).after wb = (f ws).after wb := by
  rw [after_bind]
  unfold getSheetWith
  cases hws : wb.sheets[sheet]? with
  | none =>
    rw [bind_error (getSheet_error hws)]
    exact .inl rfl
  | some ws =>
    rw [bind_ok (getSheet_ok hws)]
    by_cases hrange : ws.containsRange range = true
    · rw [if_pos hrange]
      exact .inr ⟨ws, rfl⟩
    · rw [if_neg hrange]
      exact .inl rfl

/-- Hiding the rows of a range, whatever decides which. -/
theorem wellFormed_filterWith (h : wb.WellFormed) (sheet : Nat) (range : RangeRef)
    (fails : Worksheet → Nat → Bool) :
    ((getSheetWith sheet range >>= fun ws =>
      setRowsHidden sheet range.rows (fails ws)).after wb).WellFormed := by
  rcases after_getSheetWith_bind _ wb with e | ⟨ws, e⟩ <;> rw [e]
  · exact h
  · exact wellFormed_setRowsHidden h sheet range.rows _

theorem wellFormed_filter (h : wb.WellFormed) (sheet : Nat) (range : RangeRef)
    (criterion : RowCriterion) : ((filter sheet range criterion).after wb).WellFormed := by
  unfold filter
  rcases after_getSheetWith_bind _ wb with e | ⟨ws, e⟩ <;> rw [e]
  · exact h
  · dsimp only
    rw [after_bind_pure]
    exact wellFormed_setRowsHidden h sheet range.rows _

theorem wellFormed_clearFilter (h : wb.WellFormed) (sheet : Nat) (range : RangeRef) :
    ((clearFilter sheet range).after wb).WellFormed :=
  wellFormed_filterWith h sheet range fun _ _ => false

end Edit

end Gridcalc
