import Gridcalc.CommandLine.Assignment
import Gridcalc.Proofs.Formula.Recognised
import Gridcalc.Proofs.Formula.SheetNames
import Gridcalc.Proofs.Workbook.Batching
import Gridcalc.Proofs.Workbook.Resting

/-!
# Assignments to cells named as in formulas

An assignment names a sheet in the way a formula does, but it is read in a simpler way: it is cut at
its first equals sign, and apostrophes are only taken off the ends of a name.

* `assignmentText`: the assignment that is made of a name, an address and an input;
* `dropApostrophes_spelledName`: what is left of a name;
* `read_assignmentText`, `read_assignmentText_iff`: what is read, and which names are read again;
* `assign_of_sheetOf`: what an assignment with such a name does;
* `assignmentText_agrees_iff`: **an assignment is read as a formula would read it just if there is
  neither an equals sign nor an apostrophe in the name**, and its input goes to where formulas look
  for it.
-/

namespace Gridcalc

open Text

/-! ## 1. Apostrophes -/

section Ends

variable {p : Char → Bool} {cs : List Char}

theorem head_strip : ∀ c ∈ ((cs.dropWhile p).rdropWhile p).head?, p c = false := by
  intro c hc
  obtain ⟨dropped, hdropped⟩ := List.rdropWhile_prefix p (cs.dropWhile p)
  have hmem := List.mem_head?_append_of_mem_head? (t := dropped) hc
  have hhead := List.head?_dropWhile_not p cs
  rw [← hdropped, hmem] at hhead
  exact hhead

theorem getLast_strip : ∀ c ∈ ((cs.dropWhile p).rdropWhile p).getLast?, p c = false := by
  intro c hc
  obtain ⟨hne, rfl⟩ := List.mem_getLast?_eq_getLast hc
  exact Bool.eq_false_iff.mpr (List.rdropWhile_last_not p _ hne)

/-- Nothing is left to be taken off. -/
theorem dropApostrophes_dropApostrophes (cs : List Char) :
    dropApostrophes (dropApostrophes cs) = dropApostrophes cs :=
  strip_eq_self head_strip getLast_strip

end Ends

section Doubled

variable {c d : Char} {cs : List Char}

theorem doubled_cons_self (c : Char) (cs : List Char) :
    doubled c (c :: cs) = c :: c :: doubled c cs := by
  simp [doubled]

theorem doubled_cons_of_ne (h : d ≠ c) (cs : List Char) :
    doubled c (d :: cs) = d :: doubled c cs := by
  simp [doubled, h]

theorem mem_doubled : d ∈ doubled c cs ↔ d ∈ cs := by
  induction cs with
  | nil => exact Iff.rfl
  | cons e cs ih =>
    by_cases he : e = c
    · subst he
      rw [doubled_cons_self, List.mem_cons, List.mem_cons, List.mem_cons, ih, ← or_assoc, or_self]
    · rw [doubled_cons_of_ne he, List.mem_cons, List.mem_cons, ih]

theorem length_doubled (c : Char) (cs : List Char) :
    (doubled c cs).length = cs.length + cs.count c := by
  induction cs with
  | nil => rfl
  | cons e cs ih =>
    by_cases he : e = c
    · subst he
      rw [doubled_cons_self, List.count_cons_self]
      simp only [List.length_cons, ih]
      omega
    · rw [doubled_cons_of_ne he, List.count_cons_of_ne he]
      simp only [List.length_cons, ih]
      omega

theorem doubled_eq_self_iff : doubled c cs = cs ↔ ∀ d ∈ cs, d ≠ c := by
  constructor
  · intro h d hd hdc
    have hlength := length_doubled c cs
    rw [h] at hlength
    have hcount : cs.count c = 0 := by omega
    exact List.count_eq_zero.mp hcount (hdc ▸ hd)
  · intro h
    induction cs with
    | nil => rfl
    | cons e cs ih =>
      obtain ⟨he, hcs⟩ := List.forall_mem_cons.mp h
      rw [doubled_cons_of_ne he, ih hcs]

theorem dropWhile_doubled (c : Char) (cs : List Char) :
    (doubled c cs).dropWhile (· = c) = doubled c (cs.dropWhile (· = c)) := by
  induction cs with
  | nil => rfl
  | cons e cs ih =>
    by_cases he : e = c
    · subst he
      simp [doubled_cons_self, ih]
    · simp [doubled_cons_of_ne he, he]

theorem reverse_doubled (c : Char) (cs : List Char) :
    (doubled c cs).reverse = doubled c cs.reverse := by
  rw [doubled, List.reverse_flatMap, doubled]
  congr 1
  funext d
  simp only [Function.comp_apply]
  split <;> rfl

/-- Doubled apostrophes at the ends are taken off like single ones. -/
theorem dropApostrophes_doubled (cs : List Char) :
    dropApostrophes (doubled '\'' cs) = doubled '\'' (dropApostrophes cs) := by
  rw [dropApostrophes, dropWhile_doubled, reverse_doubled, dropWhile_doubled, reverse_doubled,
    dropApostrophes]

theorem dropApostrophes_quoted (cs : List Char) :
    dropApostrophes ('\'' :: cs ++ ['\'']) = dropApostrophes cs := by
  show (('\'' :: (cs ++ ['\''])).dropWhile (· = '\'')).rdropWhile (· = '\'') =
    (cs.dropWhile (· = '\'')).rdropWhile (· = '\'')
  rw [List.dropWhile_cons_of_pos (by decide), List.dropWhile_append]
  split
  · rename_i hempty
    rw [List.isEmpty_iff.mp hempty]
    rfl
  · exact List.rdropWhile_concat_pos _ _ _ (by decide)

theorem dropApostrophes_eq_self (h : ∀ d ∈ cs, d ≠ '\'') : dropApostrophes cs = cs :=
  strip_eq_self (fun d hd => decide_eq_false (h d (List.mem_of_mem_head? hd)))
    fun d hd => decide_eq_false (h d (List.mem_of_mem_getLast? hd))

/-- A name is the same with its apostrophes taken off its ends and the others doubled just if there
    is none. -/
theorem doubled_dropApostrophes_eq_iff :
    doubled '\'' (dropApostrophes cs) = cs ↔ ∀ d ∈ cs, d ≠ '\'' := by
  constructor
  · intro h
    have hends : dropApostrophes cs = cs := by
      rw [← h, dropApostrophes_doubled, dropApostrophes_dropApostrophes]
    rw [hends] at h
    exact doubled_eq_self_iff.mp h
  · intro h
    rw [dropApostrophes_eq_self h, doubled_eq_self_iff.mpr h]

end Doubled

/-! ## 2. What is read -/

/-- A name as it stands in front of the exclamation mark. -/
def spelledName (name : String) : List Char :=
  if isPlainName name.toList then name.toList else '\'' :: doubled '\'' name.toList ++ ['\'']

/-- The assignment of an input to a cell that is named as in a formula. -/
def assignmentText (name : String) (a : CellRef) (input : String) : String :=
  String.ofList (sheetPrefix name ++ a.chars ++ '=' :: input.toList)

section Reading

variable {name input : String} {a : CellRef} {c : Char} {cs front address : List Char}
  {read : Assignment}

theorem sheetPrefix_eq (name : String) : sheetPrefix name = spelledName name ++ ['!'] := by
  by_cases h : isPlainName name.toList = true <;> simp [sheetPrefix, spelledName, h]

theorem forall_of_isPlainName (h : isPlainName cs = true) : ∀ c ∈ cs, isPlainChar c = true := by
  cases cs with
  | nil => exact fun c hc => absurd hc List.not_mem_nil
  | cons c cs => exact (isPlainName_cons.mp h).2

/-- The characters of a name, and perhaps apostrophes. -/
theorem mem_spelledName_of_mem (h : c ∈ name.toList) : c ∈ spelledName name := by
  unfold spelledName
  split
  · exact h
  · exact List.mem_append_left _ (List.mem_cons_of_mem _ (mem_doubled.mpr h))

theorem mem_or_eq_of_mem_spelledName (h : c ∈ spelledName name) :
    c ∈ name.toList ∨ c = '\'' := by
  unfold spelledName at h
  split at h
  · exact .inl h
  · simp only [List.cons_append, List.mem_cons, List.mem_append, mem_doubled, List.not_mem_nil,
      or_false] at h
    rcases h with h | h | h
    · exact .inr h
    · exact .inl h
    · exact .inr h

theorem spelledName_ne_nil (h : name.toList ≠ []) : spelledName name ≠ [] := by
  obtain ⟨c, cs, hname⟩ := List.exists_cons_of_ne_nil h
  exact List.ne_nil_of_mem (mem_spelledName_of_mem (c := c) (by simp [hname]))

/-- A name never begins with a blank. -/
theorem head_spelledName (name : String) : ∀ c ∈ (spelledName name).head?, isBlank c = false := by
  unfold spelledName
  split
  · rename_i hplain
    intro c hc
    have hchar := forall_of_isPlainName hplain c (List.mem_of_mem_head? hc)
    exact not_isBlank_of_isNameChar (isNameChar_of_isPlainChar hchar)
  · intro c hc
    cases hc
    decide

/-- What is left of a name: apostrophes at its ends are lost, all others are doubled. -/
theorem dropApostrophes_spelledName (name : String) :
    dropApostrophes (spelledName name) = doubled '\'' (dropApostrophes name.toList) := by
  unfold spelledName
  split
  · rename_i hplain
    have hnone : ∀ c ∈ name.toList, c ≠ '\'' := by
      intro c hc hquote
      exact absurd (hquote ▸ forall_of_isPlainName hplain c hc) (by decide)
    rw [dropApostrophes_eq_self hnone, doubled_eq_self_iff.mpr hnone]
  · rw [dropApostrophes_quoted, dropApostrophes_doubled]

/-- An assignment to a cell of a named sheet. -/
theorem read_qualified (hequals : ∀ c ∈ front ++ '!' :: address, c ≠ '=')
    (hmark : ∀ c ∈ address, c ≠ '!')
    (htrim : trim (front ++ '!' :: address) = front ++ '!' :: address) (input : List Char) :
    Assignment.read (String.ofList (front ++ '!' :: address ++ '=' :: input)) =
      if (dropApostrophes front).isEmpty then
        .error (.emptySheetName (String.ofList (front ++ '!' :: address ++ '=' :: input)))
      else .ok ⟨some (String.ofList (dropApostrophes front)), String.ofList address,
        String.ofList input⟩ := by
  have htarget : (front ++ '!' :: address ++ '=' :: input).takeWhile (· ≠ '=') =
      front ++ '!' :: address :=
    takeWhile_run (fun c hc => decide_eq_true (hequals c hc)) (by simp)
  have haddress : ((front ++ '!' :: address).reverse.takeWhile (· ≠ '!')).reverse = address := by
    have hreverse : (front ++ '!' :: address).reverse =
        address.reverse ++ '!' :: front.reverse := by
      simp
    rw [hreverse, takeWhile_run (fun c hc => ?_) (by simp), List.reverse_reverse]
    exact decide_eq_true (hmark c (List.mem_reverse.mp hc))
  have hlength : (front ++ '!' :: address).length = front.length + 1 + address.length := by
    simp
    omega
  unfold Assignment.read
  simp only [String.toList_ofList, htarget, List.drop_left, htrim, haddress]
  rw [if_neg (by omega), hlength, show front.length + 1 + address.length - address.length - 1 =
    front.length by omega, List.take_left]

/-- The input stands behind the first equals sign. -/
theorem exists_of_read_eq_ok {source : String} (h : Assignment.read source = .ok read) :
    ∃ target, source.toList = target ++ '=' :: read.input.toList ∧ '=' ∉ target := by
  have hrun (target rest : List Char) (hnot : '=' ∉ target) (hrest : ∀ c ∈ rest.head?, c = '=') :
      (target ++ rest).takeWhile (· ≠ '=') = target := by
    refine takeWhile_run (fun c hc => decide_eq_true fun heq => hnot (heq ▸ hc)) fun c hc => ?_
    rw [hrest c hc]
    decide
  by_cases hmem : '=' ∈ source.toList
  · obtain ⟨target, input, hsource, hnot⟩ := List.eq_append_cons_of_mem hmem
    have htarget := hrun target ('=' :: input) hnot (by simp)
    refine ⟨target, ?_, hnot⟩
    unfold Assignment.read at h
    simp only [hsource, htarget, List.drop_left] at h
    split at h
    · cases h
      rw [hsource, String.toList_ofList]
    · split at h
      · cases h
      · cases h
        rw [hsource, String.toList_ofList]
  · have htarget := hrun _ [] hmem nofun
    rw [List.append_nil] at htarget
    unfold Assignment.read at h
    simp only [htarget, List.drop_length] at h
    cases h

/-- A character of an address ends neither the name in front of it nor the target. -/
theorem ne_of_mem_address (h : c ∈ a.chars) : c ≠ '=' ∧ c ≠ '!' := by
  constructor
  all_goals
    intro heq
    subst heq
    exact absurd (CellRef.mem_chars h) (by decide)

theorem sheetPrefix_append (name : String) (a : CellRef) :
    sheetPrefix name ++ a.chars = spelledName name ++ '!' :: a.chars := by
  rw [sheetPrefix_eq, List.append_assoc, List.singleton_append]

/-- The first equals sign stands behind the target, unless there is one in the name. -/
theorem ne_of_mem_target (hequals : '=' ∉ name.toList) :
    ∀ c ∈ spelledName name ++ '!' :: a.chars, c ≠ '=' := by
  intro c hc heq
  rcases List.mem_append.mp hc with hc | hc
  · rcases mem_or_eq_of_mem_spelledName hc with hc | rfl
    · exact hequals (heq ▸ hc)
    · cases heq
  · rcases List.mem_cons.mp hc with rfl | hc
    · cases heq
    · exact (ne_of_mem_address hc).1 heq

/-- Blanks at the ends of a name are kept in apostrophes. -/
theorem trim_target (hne : name.toList ≠ []) (a : CellRef) :
    trim (spelledName name ++ '!' :: a.chars) = spelledName name ++ '!' :: a.chars := by
  refine strip_eq_self (fun c hc => ?_) fun c hc => ?_
  · obtain ⟨d, ds, hspelled⟩ := List.exists_cons_of_ne_nil (spelledName_ne_nil hne)
    refine head_spelledName name c ?_
    rw [hspelled] at hc ⊢
    exact hc
  · rw [List.getLast?_append_cons, List.getLast?_cons_of_ne_nil a.chars_ne_nil] at hc
    exact CellRef.not_isBlank_of_mem_chars (List.mem_of_mem_getLast? hc)

/-- What is read where no equals sign is in the name: another name, or none at all, if there are
    apostrophes in it. -/
theorem read_assignmentText (hne : name.toList ≠ []) (hequals : '=' ∉ name.toList) (a : CellRef)
    (input : String) :
    Assignment.read (assignmentText name a input) =
      if (doubled '\'' (dropApostrophes name.toList)).isEmpty then
        .error (.emptySheetName (assignmentText name a input))
      else .ok ⟨some (String.ofList (doubled '\'' (dropApostrophes name.toList))), a.text,
        input⟩ := by
  rw [assignmentText, sheetPrefix_append, read_qualified (ne_of_mem_target hequals)
    (fun c hc => (ne_of_mem_address hc).2) (trim_target hne a), dropApostrophes_spelledName,
    String.ofList_toList]
  rfl

/-- An equals sign in the name is taken for the one behind the target. -/
theorem input_ne_of_read (hequals : '=' ∈ name.toList)
    (h : Assignment.read (assignmentText name a input) = .ok read) : read.input ≠ input := by
  intro hinput
  obtain ⟨target, htext, hnot⟩ := exists_of_read_eq_ok h
  rw [assignmentText, String.toList_ofList, hinput] at htext
  rw [← List.append_cancel_right htext] at hnot
  refine hnot (List.mem_append_left _ ?_)
  rw [sheetPrefix_eq]
  exact List.mem_append_left _ (mem_spelledName_of_mem hequals)

/-- **Which names are read again**: those without equals signs and apostrophes. -/
theorem read_assignmentText_iff (hne : name.toList ≠ []) (a : CellRef) (input : String) :
    Assignment.read (assignmentText name a input) = .ok ⟨some name, a.text, input⟩ ↔
      ∀ c ∈ name.toList, c ≠ '=' ∧ c ≠ '\'' := by
  constructor
  · intro h
    have hequals : '=' ∉ name.toList := fun hmem => input_ne_of_read hmem h rfl
    rw [read_assignmentText hne hequals] at h
    split at h
    · cases h
    · have hname := congrArg (·.map Assignment.sheet) h
      simp only [Except.map, Except.ok.injEq, Option.some.injEq] at hname
      have hlist := congrArg String.toList hname
      rw [String.toList_ofList] at hlist
      have hquotes := doubled_dropApostrophes_eq_iff.mp hlist
      exact fun c hc => ⟨fun heq => hequals (heq ▸ hc), hquotes c hc⟩
  · intro h
    have hsame := doubled_dropApostrophes_eq_iff.mpr fun c hc => (h c hc).2
    rw [read_assignmentText hne (fun hmem => (h '=' hmem).1 rfl), hsame,
      if_neg (by simpa using hne), String.ofList_toList]

end Reading

/-! ## 3. What is done -/

section Assigning

variable {name : String} {a : CellRef} {input : String} {wb wb₁ : Workbook} {i : Nat}

theorem orFail_ok {α : Type} {op : Edit α} {fault : Failure → CommandFault} {x : α}
    (h : op wb = .ok x wb₁) : orFail op fault wb = .ok x wb₁ := by
  simp only [orFail, EStateM.adaptExcept, h]

theorem orFail_error {α : Type} {op : Edit α} {fault : Failure → CommandFault} {e : Failure}
    (h : op wb = .error e wb₁) : orFail op fault wb = .error (fault e) wb₁ := by
  simp only [orFail, EStateM.adaptExcept, h]

theorem checkSheetName_of_new (hvalid : ValidSheetName name) (hnew : wb.sheetIndex? name = none) :
    wb.checkSheetName name none = .ok () := by
  unfold Workbook.checkSheetName
  rw [sheetNameFault?_eq_none_iff.mpr hvalid]
  refine if_neg fun htaken => ?_
  obtain ⟨⟨ws, i⟩, hmem, hsame⟩ := List.any_eq_true.mp htaken
  have hws : ws ∈ wb.sheets := List.mem_of_getElem? (List.mem_zipIdx_iff_getElem?.mp hmem)
  have hother : sameIgnoringCase ws.name name = false := List.findIdx?_eq_none_iff.mp hnew ws hws
  simp [hother] at hsame

/-- A sheet with a name that is new stands behind all others. -/
theorem sheetIndex?_rebuild_withAdded (hw : wb.WellFormed)
    (hname : wb.checkSheetName name none = .ok ()) (hnew : wb.sheetIndex? name = none)
    (rows cols : Nat) :
    (Edit.withAdded wb name rows cols).rebuild.sheetIndex? name = some wb.tabs.length := by
  have hrebuilt := Workbook.sameInputs_rebuild (Edit.sheetsWellFormed_withAdded hw hname rows cols)
  refine (hrebuilt.frames.sheetOfReference?_eq 0 (some name)).trans ?_
  have hlength : wb.sheets.length = wb.tabs.length := List.length_map _
  have hnone : sheetNamed? wb.sheets name = none := hnew
  rw [Edit.sheets_withAdded, sheetOfReference?, sheetNamed?, List.findIdx?_append, ← sheetNamed?,
    hnone, ← hlength]
  simp [Worksheet.create]

/-- A sheet with a valid name is there, or it is added. -/
theorem exists_sheetOf (hw : wb.WellFormed) (hvalid : ValidSheetName name) :
    ∃ i wb₁, sheetOf (some name) wb = .ok i wb₁ ∧ wb₁.WellFormed ∧
      wb₁.sheetIndex? name = some i := by
  have hget : (get : CommandStep Workbook) wb = .ok wb wb := rfl
  cases hindex : wb.sheetIndex? name with
  | some i =>
    refine ⟨i, wb, ?_, hw, hindex⟩
    simp only [sheetOf, bind, EStateM.bind, hget, hindex]
    rfl
  | none =>
    have hname := checkSheetName_of_new hvalid hindex
    have hadd : Edit.addSheet name wb = .ok wb.tabs.length
        (Edit.withAdded wb name wb.settings.rowCount wb.settings.colCount).rebuild := by
      have hlift : (Edit.lift (wb.checkSheetName name none) : Edit Unit) wb = .ok () wb := by
        rw [hname, Edit.lift_ok]
      exact Edit.bind_ok hlift
    have hindex' := sheetIndex?_rebuild_withAdded hw hname hindex wb.settings.rowCount
      wb.settings.colCount
    refine ⟨_, _, ?_, ?_, hindex'⟩
    · simp only [sheetOf, bind, EStateM.bind, hget, hindex]
      exact orFail_ok hadd
    · have hsteps := Edit.steps_addSheet hw name
      rw [Edit.after_ok hadd] at hsteps
      exact hsteps.wellFormed hw

/-- An assignment that is read again writes its input. -/
theorem assign_of_sheetOf (hread : Assignment.read (assignmentText name a input) =
      .ok ⟨some name, a.text, input⟩) (ha : a.onGrid = true)
    (hsheet : sheetOf (some name) wb = .ok i wb₁) :
    assign (assignmentText name a input) wb =
      orFail (Edit.setInput i a.row a.col input) (.cellNotSet (assignmentText name a input))
        wb₁ := by
  have haddress : CellRef.read a.text = .ok a := by
    rw [CellRef.read, CellRef.text, String.toList_ofList, CellRef.readChars_chars ha]
  simp only [assign, hread, bind, EStateM.bind, pure, EStateM.pure, hsheet, haddress]
  rfl

/-- A name that can be read and an address behind it are a formula. -/
theorem parseFormula_sheetPrefix (h : ¬ Unreadable name) (ha : a.onGrid = true) :
    parseFormula (String.ofList ('=' :: (sheetPrefix name ++ a.chars))) =
      ⟨some (.cell (some name) a), []⟩ := by
  have hstop : Stops [] := fun c hc => nomatch hc
  have hcell := Lexed.token allBlank_nil (readsAs_sheetPrefix h ha hstop) (.finish allBlank_nil)
  have hequals : ReadsAs .equals ['='] ([] ++ (sheetPrefix name ++ a.chars) ++ []) :=
    ⟨'=', [], rfl, by decide, rfl⟩
  have hlexed := Lexed.token allBlank_nil hequals hcell
  simp only [List.nil_append, List.append_nil, List.singleton_append] at hlexed
  refine parseFormula_of_derives ?_
    (.tighter (.tighter (.tighter (.tighter (.tighter (.cell (some name) a)))))) (Nat.zero_le _)
  rw [String.toList_ofList, lexed_iff.mp hlexed]

/-- A write on a sheet stores the input where references to the sheet lead. -/
theorem setInput_stored (hw : wb.WellFormed) (hindex : wb.sheetIndex? name = some i)
    (hin : wb.InGrid ⟨i, a.row, a.col⟩) (input : String) :
    ∃ wb', Edit.setInput i a.row a.col input wb = .ok () wb' ∧
      (∀ home, sheetOfReference? wb'.sheets home (some name) = some i) ∧
      inputIn wb'.sheets ⟨i, a.row, a.col⟩ =
        ((Cell.ofInput input).input.withStyle (Edit.styleIn wb ⟨i, a.row, a.col⟩)).unlessBlank := by
  have hwrite := Edit.writeContents_ok hin (Cell.ofInput input)
  have hinput := inputIn_writeContents hw hin (Cell.ofInput input) ⟨i, a.row, a.col⟩
  have hframes := sameFrames_writeContents hw hin (Cell.ofInput input)
  rw [Edit.after_ok hwrite] at hinput hframes
  rw [if_pos rfl] at hinput
  refine ⟨_, hwrite, fun home => ?_, hinput⟩
  exact (hframes.sheetOfReference?_eq home (some name)).trans hindex

/-- **Assignments name sheets as formulas do just if there is neither an equals sign nor an
    apostrophe in the name.** With such a name the input is stored where a formula with the same
    name and address in front reads it, or the assignment is refused, since the sheet is too
    small. -/
theorem assignmentText_agrees_iff {name : String} (hname : sheetNameFault? name.toList = none)
    {a : CellRef} (ha : a.onGrid = true) (input : String) :
    (Assignment.read (assignmentText name a input) = .ok ⟨some name, a.text, input⟩ ↔
      ∀ c ∈ name.toList, c ≠ '=' ∧ c ≠ '\'') ∧
    (¬ Unreadable name → parseFormula (String.ofList ('=' :: (sheetPrefix name ++ a.chars))) =
      ⟨some (.cell (some name) a), []⟩) ∧
    ((∀ c ∈ name.toList, c ≠ '=' ∧ c ≠ '\'') → ∀ wb : Workbook, wb.WellFormed →
      ∃ i wb₁, sheetOf (some name) wb = .ok i wb₁ ∧
        (¬ wb₁.InGrid ⟨i, a.row, a.col⟩ → ∃ e, assign (assignmentText name a input) wb =
          .error (.cellNotSet (assignmentText name a input) e) wb₁) ∧
        (wb₁.InGrid ⟨i, a.row, a.col⟩ → ∃ wb', assign (assignmentText name a input) wb =
            .ok () wb' ∧
          (∀ home, sheetOfReference? wb'.sheets home (some name) = some i) ∧
          inputIn wb'.sheets ⟨i, a.row, a.col⟩ = ((Cell.ofInput input).input.withStyle
            (Edit.styleIn wb₁ ⟨i, a.row, a.col⟩)).unlessBlank)) := by
  have hvalid := sheetNameFault?_eq_none_iff.mp hname
  have hread := read_assignmentText_iff hvalid.1 a input
  refine ⟨hread, fun h => parseFormula_sheetPrefix h ha, fun hplain wb hw => ?_⟩
  obtain ⟨i, wb₁, hsheet, hw₁, hindex⟩ := exists_sheetOf hw hvalid
  have hassign := assign_of_sheetOf (hread.mpr hplain) ha hsheet
  refine ⟨i, wb₁, hsheet, fun hout => ?_, fun hin => ?_⟩
  · obtain ⟨e, he⟩ := Edit.writeContents_error hout (Cell.ofInput input)
    exact ⟨e, hassign.trans (orFail_error he)⟩
  · obtain ⟨wb', hwrite, hmeant, hinput⟩ := setInput_stored hw₁ hindex hin input
    exact ⟨wb', hassign.trans (orFail_ok hwrite), hmeant, hinput⟩

/-- A name with a blank in apostrophes, and one with an apostrophe of its own. -/
theorem assignmentText_agrees_taxRates :
    sheetNameFault? "Tax Rates".toList = none ∧ CellRef.onGrid ⟨2, 2, false, false⟩ = true ∧
    Assignment.read (assignmentText "Tax Rates" ⟨2, 2, false, false⟩ "0.2") =
      .ok ⟨some "Tax Rates", CellRef.text ⟨2, 2, false, false⟩, "0.2"⟩ ∧
    sheetNameFault? "It's".toList = none ∧
    Assignment.read (assignmentText "It's" ⟨2, 2, false, false⟩ "0.2") ≠
      .ok ⟨some "It's", CellRef.text ⟨2, 2, false, false⟩, "0.2"⟩ := by
  have ha : CellRef.onGrid ⟨2, 2, false, false⟩ = true := by decide
  refine ⟨by decide, ha, (assignmentText_agrees_iff (by decide) ha "0.2").1.mpr ?_, by decide,
    fun h => ?_⟩
  · simp
  · exact absurd rfl ((assignmentText_agrees_iff (by decide) ha "0.2").1.mp h '\'' (by decide)).2

end Assigning

end Gridcalc
