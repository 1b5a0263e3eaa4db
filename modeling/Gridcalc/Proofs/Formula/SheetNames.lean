import Gridcalc.Proofs.Formula.Rereading
import Gridcalc.Workbook.Sheets

/-!
# Names of sheets in front of addresses

A name is written as it is or in apostrophes, and it is not always read again.

* `Unreadable`: the names that are written as they are although no name begins like them, and
  `readsAs_sheetPrefix`: all others are read again in front of an address;
* `Prefixes`, `Prefixes.proper`: names that can be read again by the characters they hold;
* `tokenize_sheetPrefix`: **a sheet's name and an address are one token, unless the name is
  unreadable**.
-/

namespace Gridcalc

/-! ## 1. Names as they are and in apostrophes -/

/-- A character that a name may hold without apostrophes around it. -/
def isPlainChar (c : Char) : Bool := Text.isLetterOrNumber c || c == '_' || c == '.'

/-- A name that is written without apostrophes and not read as one: it holds letters, numeric
    characters, underscores and points only, and begins with a point or with a numeric character
    that is neither an ASCII digit nor a letter. -/
def Unreadable (name : String) : Prop :=
  ∃ c rest, name.toList = c :: rest ∧ c.isDigit = false ∧ Text.isLetter c = false ∧ c ≠ '_' ∧
    ∀ d ∈ c :: rest, isPlainChar d = true

/-- The name can be read again in front of an address: it begins with a letter or an underscore, or
    it holds a character other than letters, digits, underscores and points, which puts it in
    apostrophes. -/
def Prefixes (name : String) : Prop :=
  (∃ c ∈ name.toList.head?, (Text.isLetter c || c == '_') = true) ∨
    ∃ c ∈ name.toList, (Text.isLetterOrNumber c || c == '_' || c == '.') = false

section Names

variable {name : String} {c : Char} {cs more rest : List Char}

theorem isNameChar_of_isPlainChar (h : isPlainChar c = true) : isNameChar c = true := by
  simp only [isPlainChar, Bool.or_eq_true] at h
  simp only [isNameChar, Bool.or_eq_true]
  rcases h with (h | h) | h
  · exact .inl (.inl (.inl h))
  · exact .inl (.inl (.inr h))
  · exact .inr h

theorem isPlainName_cons : isPlainName (c :: rest) = true ↔
    c.isDigit = false ∧ ∀ d ∈ c :: rest, isPlainChar d = true := by
  rw [isPlainName, Bool.and_eq_true, List.all_eq_true, Bool.not_eq_true']
  rfl

/-- A plain name that can be read begins like a name. -/
theorem exists_of_isPlainName (hplain : isPlainName name.toList = true) (h : ¬ Unreadable name) :
    ∃ c rest, name.toList = c :: rest ∧ startsName c = true ∧
      ∀ d ∈ c :: rest, isNameChar d = true := by
  cases hname : name.toList with
  | nil => rw [hname] at hplain; cases hplain
  | cons c rest =>
    rw [hname, isPlainName_cons] at hplain
    obtain ⟨hdigit, hall⟩ := hplain
    refine ⟨c, rest, rfl, ?_, fun d hd => isNameChar_of_isPlainChar (hall d hd)⟩
    refine Bool.of_not_eq_false fun hstarts => h ⟨c, rest, hname, hdigit, ?_, ?_, hall⟩
    · exact (Bool.or_eq_false_iff.mp (Bool.or_eq_false_iff.mp hstarts).1).1
    · rintro rfl
      cases hstarts

/-- What a name holds can make it readable. -/
theorem Prefixes.not_unreadable (h : Prefixes name) : ¬ Unreadable name := by
  rintro ⟨c, rest, hname, -, hletter, hunderscore, hall⟩
  rcases h with ⟨d, hd, hstarts⟩ | ⟨d, hd, hother⟩
  · rw [hname] at hd
    cases hd
    rw [hletter, Bool.false_or, beq_iff_eq] at hstarts
    exact hunderscore hstarts
  · have hplain := hall d (hname ▸ hd)
    rw [isPlainChar, hother] at hplain
    cases hplain

/-- A name in apostrophes is read again, also if it holds some itself. -/
theorem readQuotedSheet?_doubled (h : ∀ d ∈ more.head?, d ≠ '\'') :
    readQuotedSheet? (doubled '\'' cs ++ '\'' :: more) =
      some (cs, (doubled '\'' cs).length + 1) := by
  induction cs with
  | nil => exact readQuotedSheet?_close h
  | cons c cs ih =>
    by_cases hc : c = '\''
    · have hdoubled : doubled '\'' (c :: cs) = '\'' :: '\'' :: doubled '\'' cs := by
        simp [doubled, hc]
      rw [hdoubled, List.cons_append, List.cons_append, readQuotedSheet?_double, ih, hc]
      rfl
    · have hdoubled : doubled '\'' (c :: cs) = c :: doubled '\'' cs := by
        simp [doubled, hc]
      rw [hdoubled, List.cons_append, readQuotedSheet?_cons hc, ih]
      rfl

theorem not_isBlank_of_isNameChar {c : Char} (h : isNameChar c = true) :
    Text.isBlank c = false := by
  refine Bool.eq_false_iff.mpr fun hblank => ?_
  rw [isNameChar_of_endsWord (Bool.or_eq_true_iff.mpr (.inl hblank))] at h
  cases h

/-- A plain name in front of an address is read again. -/
theorem readsAs_plainName {c : Char} {rest : List Char} (hstarts : startsName c = true)
    (hrun : ∀ d ∈ c :: rest, isNameChar d = true) {a : CellRef} (ha : a.onGrid = true)
    {tail : List Char} (hstop : Stops tail) :
    ReadsAs (.cell (some (String.ofList (c :: rest))) a) (c :: rest ++ ['!'] ++ a.chars) tail := by
  refine ⟨c, rest ++ ['!'] ++ a.chars, rfl, not_isBlank_of_isNameChar (hrun c List.mem_cons_self),
    ?_⟩
  have htail : rest ++ ['!'] ++ a.chars ++ tail = rest ++ '!' :: (a.chars ++ tail) := by simp
  have htake : (rest ++ '!' :: (a.chars ++ tail)).takeWhile isNameChar = rest := by
    refine takeWhile_run (fun d hd => hrun d (List.mem_cons_of_mem _ hd)) ?_
    rintro d ⟨⟩
    decide
  rw [readToken_name hstarts, htail]
  unfold readNameToken
  rw [htake]
  dsimp only
  rw [List.drop_left]
  have hqualified : readQualified c (rest ++ ['!'] ++ (a.chars ++ tail)) (c :: rest)
      (rest ++ ['!']).length = _ := readQualified_address ha hstop
  rw [List.append_assoc, List.length_append, List.length_singleton] at hqualified
  refine hqualified.trans ?_
  rw [List.length_append, List.length_append, List.length_singleton]

/-- A name in apostrophes, with its own ones doubled, is read again. -/
theorem readsAs_quotedName (name : List Char) {a : CellRef} (ha : a.onGrid = true)
    {tail : List Char} (hstop : Stops tail) :
    ReadsAs (.cell (some (String.ofList name)) a)
      ('\'' :: doubled '\'' name ++ ['\'', '!'] ++ a.chars) tail := by
  refine ⟨'\'', doubled '\'' name ++ ['\'', '!'] ++ a.chars, rfl, by decide, ?_⟩
  have htail : doubled '\'' name ++ ['\'', '!'] ++ a.chars ++ tail =
      doubled '\'' name ++ '\'' :: '!' :: (a.chars ++ tail) := by simp
  have hquoted : readQuotedSheet? (doubled '\'' name ++ '\'' :: '!' :: (a.chars ++ tail)) =
      some (name, (doubled '\'' name).length + 1) := by
    refine readQuotedSheet?_doubled ?_
    rintro d ⟨⟩
    decide
  have hdrop : (doubled '\'' name ++ '\'' :: '!' :: (a.chars ++ tail)).drop
      ((doubled '\'' name).length + 1) = '!' :: (a.chars ++ tail) := by
    rw [← List.drop_drop, List.drop_left]
    rfl
  rw [readToken_sheet, htail, readSheetToken_eq hquoted hdrop]
  have hqualified : readQualified '\'' (doubled '\'' name ++ ['\'', '!'] ++ (a.chars ++ tail)) name
      (doubled '\'' name ++ ['\'', '!']).length = _ := readQualified_address ha hstop
  rw [List.append_assoc, List.length_append] at hqualified
  refine hqualified.trans ?_
  rw [List.length_append, List.length_append]

/-- **A name in front of an address is read again**, plain or in apostrophes, unless it is
    unreadable. -/
theorem readsAs_sheetPrefix (h : ¬ Unreadable name) {a : CellRef} (ha : a.onGrid = true)
    {tail : List Char} (hstop : Stops tail) :
    ReadsAs (.cell (some name) a) (sheetPrefix name ++ a.chars) tail := by
  unfold sheetPrefix
  dsimp only
  cases hplain : isPlainName name.toList with
  | true =>
    obtain ⟨c, rest, hname, hstarts, hrun⟩ := exists_of_isPlainName hplain h
    have hreads := readsAs_plainName hstarts hrun ha hstop
    rw [← hname, String.ofList_toList] at hreads
    exact hreads
  | false =>
    have hreads := readsAs_quotedName name.toList ha hstop
    rw [String.ofList_toList] at hreads
    exact hreads

/-- A corner with the name in front of it is a proper one. -/
theorem Prefixes.proper (h : Prefixes name) {a : CellRef} (ha : a.onGrid = true) :
    Corner.Proper ⟨sheetPrefix name, some name, a⟩ :=
  ⟨ha, fun _ ha' _ hstop _ => readsAs_sheetPrefix h.not_unreadable ha' hstop⟩

/-! ## 2. Tokens of a name and an address -/

/-- The first token of a text begins with the first character that is no blank. -/
theorem kindsOf_cons (hc : Text.isBlank c = false) (cs : List Char) :
    kindsOf (c :: cs) = (readToken c cs).1 :: kindsOf (cs.drop (readToken c cs).2) := by
  have hreads : ReadsAs (readToken c cs).1 (c :: cs.take (readToken c cs).2)
      (cs.drop (readToken c cs).2) := by
    refine ⟨c, _, rfl, hc, ?_⟩
    rw [List.take_append_drop, List.length_take_of_le (length_readToken_le c cs)]
  have hlexed := Lexed.token allBlank_nil hreads (lexed_kindsOf _)
  rw [List.nil_append, List.cons_append, List.take_append_drop] at hlexed
  exact lexed_iff.mp hlexed

/-- A plain character that begins no name begins a number or is an unknown one. -/
theorem readToken_unreadable (hplain : isPlainChar c = true) (hstarts : startsName c = false)
    (cs : List Char) : (∃ x, (readToken c cs).1 = .number x) ∨
      ∃ s, (readToken c cs).1 = .unknown s := by
  unfold readToken
  split
  case h_19 =>
    rw [hstarts, if_neg Bool.false_ne_true]
    split
    · unfold readNumberToken
      dsimp only
      split
      · exact .inl ⟨_, rfl⟩
      · exact .inr ⟨_, rfl⟩
    · exact .inr ⟨_, rfl⟩
  all_goals exact absurd hplain (by decide)

/-- The text of an unreadable name starts with a number or with an unknown character. -/
theorem kinds_unreadable (h : Unreadable name) (a : CellRef) :
    ∃ k ∈ ((tokenize (String.ofList (sheetPrefix name ++ a.chars))).map Token.kind).head?,
      (∃ x, k = .number x) ∨ ∃ s, k = .unknown s := by
  obtain ⟨c, rest, hname, hdigit, hletter, hunderscore, hall⟩ := h
  have hplain := hall c List.mem_cons_self
  have hstarts : startsName c = false := by
    refine Bool.eq_false_iff.mpr fun hstarts => ?_
    simp only [startsName, hletter, Bool.false_or, Bool.or_eq_true, beq_iff_eq] at hstarts
    rcases hstarts with rfl | rfl
    · exact hunderscore rfl
    · exact absurd hplain (by decide)
  have htext : sheetPrefix name ++ a.chars = c :: (rest ++ ['!'] ++ a.chars) := by
    rw [sheetPrefix, hname, if_pos (isPlainName_cons.mpr ⟨hdigit, hall⟩)]
    rfl
  rw [kinds_tokenize, String.toList_ofList, htext,
    kindsOf_cons (not_isBlank_of_isNameChar (isNameChar_of_isPlainChar hplain))]
  exact ⟨_, rfl, readToken_unreadable hplain hstarts _⟩

/-- **The name of a sheet and an address behind it are one token**, whatever the name, plain or in
    apostrophes, just if the name can be read. The text of an unreadable one starts with a number or
    with an unknown character. -/
theorem tokenize_sheetPrefix (name : String) {a : CellRef} (ha : a.onGrid = true) :
    ((tokenize (String.ofList (sheetPrefix name ++ a.chars))).map Token.kind =
        [.cell (some name) a, .finish] ↔ ¬ Unreadable name) ∧
    (Unreadable name →
      ∃ k ∈ ((tokenize (String.ofList (sheetPrefix name ++ a.chars))).map Token.kind).head?,
        (∃ x, k = .number x) ∨ ∃ s, k = .unknown s) := by
  refine ⟨⟨fun hkinds hunreadable => ?_, fun h => ?_⟩, fun h => kinds_unreadable h a⟩
  · obtain ⟨k, hk, ⟨x, rfl⟩ | ⟨s, rfl⟩⟩ := kinds_unreadable hunreadable a
    · rw [hkinds] at hk
      cases hk
    · rw [hkinds] at hk
      cases hk
  · have hstop : Stops [] := fun c hc => nomatch hc
    have hreads := readsAs_sheetPrefix h ha hstop
    have hblank : AllBlank [] := fun c hc => absurd hc List.not_mem_nil
    have hlexed := Lexed.token hblank hreads (.finish hblank)
    rw [List.nil_append, List.append_nil] at hlexed
    rw [kinds_tokenize, String.toList_ofList, lexed_iff.mp hlexed]
    rfl

/-- A sheet may be called by a name in apostrophes, which is read again, and by an unreadable
    one. -/
theorem tokenize_sheetPrefix_point :
    sheetNameFault? "O'Brien".toList = none ∧ CellRef.onGrid ⟨0, 0, false, false⟩ = true ∧
    (tokenize (String.ofList (sheetPrefix "O'Brien" ++ CellRef.chars ⟨0, 0, false, false⟩))).map
      Token.kind = [.cell (some "O'Brien") ⟨0, 0, false, false⟩, .finish] ∧
    sheetNameFault? ".x".toList = none ∧
    (tokenize (String.ofList (sheetPrefix ".x" ++ CellRef.chars ⟨0, 0, false, false⟩))).map
      Token.kind ≠ [.cell (some ".x") ⟨0, 0, false, false⟩, .finish] := by
  have ha : CellRef.onGrid ⟨0, 0, false, false⟩ = true := by decide
  have hquoted : ¬ Unreadable "O'Brien" := by
    rintro ⟨c, rest, hname, -, hletter, -⟩
    cases hname
    exact absurd hletter (by decide)
  have hpoint : Unreadable ".x" :=
    ⟨'.', ['x'], by decide, by decide, by decide, by decide, List.all_eq_true.mp (by decide)⟩
  exact ⟨by decide, ha, (tokenize_sheetPrefix "O'Brien" ha).1.mpr hquoted, by decide,
    fun hkinds => (tokenize_sheetPrefix ".x" ha).1.mp hkinds hpoint⟩

end Names

end Gridcalc
