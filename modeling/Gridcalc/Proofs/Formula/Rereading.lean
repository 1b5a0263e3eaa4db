import Gridcalc.Proofs.Formula.Tails

/-!
# Tokens read again

What tokens are read as in front of another text, and what is read where an address is written.

* `ReadsAs.tail_word`, `ReadsAs.tail_mark`: a token is read again in front of another tail;
* `readsAs_address`, `readsAs_error`: a written address and a written error are read as such;
* `ReadsAs.proper`: a corner that has been read stays one when another address is written into it.
-/

namespace Gridcalc

/-! ## 1. Words and marks -/

namespace TokenKind

/-- A number, a text, an error, an address or a name. -/
def isWord : TokenKind → Bool
  | .number _ | .text _ | .error _ | .cell _ _ | .name _ => true
  | _ => false

/-- What the readers of several characters give: a word, or characters that form no token. -/
def isLong : TokenKind → Bool
  | .unknown _ => true
  | k => k.isWord

/-- The characters of an operator, a separator or a parenthesis. -/
def mark? : TokenKind → Option (List Char)
  | .equals => some ['=']
  | .plus => some ['+']
  | .minus => some ['-']
  | .star => some ['*']
  | .slash => some ['/']
  | .ampersand => some ['&']
  | .colon => some [':']
  | .comma => some [',']
  | .openParen => some ['(']
  | .closeParen => some [')']
  | .less => some ['<']
  | .greater => some ['>']
  | .lessEqual => some ['<', '=']
  | .greaterEqual => some ['>', '=']
  | .notEqual => some ['<', '>']
  | _ => none

end TokenKind

section Tokens

variable {c : Char} {cs source tail tail' : List Char} {k : TokenKind} {m : List Char}

theorem readToken_number (h : startsNumber c cs = true) :
    readToken c cs = readNumberToken c cs := by
  unfold readToken
  split
  case h_19 => exact if_pos h
  all_goals exact absurd h (by simp [startsNumber])

theorem startsNumber_of_startsName (h : startsName c = true) : startsNumber c cs = false := by
  have hname : isNameChar c = true ∧ c.isDigit = false ∧ c ≠ '.' := by
    simp only [startsName, Bool.or_eq_true, beq_iff_eq] at h
    rcases h with (h | rfl) | rfl
    · refine ⟨by simp [isNameChar, Text.isLetterOrNumber, h],
        Bool.eq_false_iff.mpr fun hd => ?_, ?_⟩
      · have hascii : c.toNat < 128 := by
          simp only [Char.isDigit, Bool.and_eq_true, decide_eq_true_eq,
            UInt32.le_iff_toNat_le] at hd
          have h57 : '9'.val.toNat = 57 := rfl
          have hval : c.toNat = c.val.toNat := rfl
          omega
        rw [Text.isLetter, if_pos hascii, isAlpha_of_isDigit hd] at h
        cases h
      · rintro rfl
        exact absurd h (by decide)
    · exact ⟨by decide, by decide, by decide⟩
    · exact ⟨by decide, by decide, by decide⟩
  simp [startsNumber, hname.2.1, hname.2.2]

theorem readToken_name (h : startsName c = true) : readToken c cs = readNameToken c cs := by
  unfold readToken
  split
  case h_19 =>
    rw [startsNumber_of_startsName h, if_neg Bool.false_ne_true, if_pos h]
  all_goals exact absurd h (by decide)

theorem readToken_text (cs : List Char) :
    readToken '"' cs = (.text (String.ofList (readQuoted cs).1), (readQuoted cs).2) := rfl

theorem readToken_error (cs : List Char) : readToken '#' cs = readErrorToken cs := rfl

theorem readToken_sheet (cs : List Char) : readToken '\'' cs = readSheetToken cs := rfl

/-- What a word starts with. -/
theorem exists_of_isWord (h : (readToken c cs).1.isWord = true) :
    c = '"' ∨ c = '#' ∨ c = '\'' ∨ startsNumber c cs = true ∨ startsName c = true := by
  revert h
  unfold readToken
  split <;> intro h
  case h_16 => exact .inl rfl
  case h_17 => exact .inr (.inl rfl)
  case h_18 => exact .inr (.inr (.inl rfl))
  case h_19 =>
    split at h
    · exact .inr (.inr (.inr (.inl ‹_›)))
    · split at h
      · exact .inr (.inr (.inr (.inr ‹_›)))
      · cases h
  all_goals cases h

/-- **A word is read again** in front of another tail that begins alike. -/
theorem ReadsAs.tail_word (h : ReadsAs k source tail) (hk : k.isWord = true) (hstop : Stops tail)
    (hhead : tail'.head? = tail.head?) : ReadsAs k source tail' := by
  obtain ⟨c, cs, rfl, hc, hread⟩ := h
  refine ⟨c, cs, rfl, hc, ?_⟩
  have hlen : (readToken c (cs ++ tail)).2 = cs.length := by rw [hread]
  have hunknown : ∀ s, (readToken c (cs ++ tail)).1 ≠ .unknown s := by
    rw [hread]
    rintro s rfl
    cases hk
  rw [← hread]
  have hword : (readToken c (cs ++ tail)).1.isWord = true := by rw [hread]; exact hk
  rcases exists_of_isWord hword with rfl | rfl | rfl | hnumber | hname
  · rw [readToken_text] at hlen
    rw [readToken_text, readToken_text, readQuoted_tail hstop hhead hlen]
  · rw [readToken_error] at hlen
    rw [readToken_error, readToken_error]
    exact readErrorToken_tail hhead hlen
  · simp only [readToken_sheet] at hlen hunknown ⊢
    exact readSheetToken_tail hstop hhead hlen hunknown
  · rw [readToken_number hnumber] at hlen ⊢
    rw [readToken_number (startsNumber_append hhead ▸ hnumber)]
    exact readNumberToken_tail hstop hhead hnumber hlen
  · rw [readToken_name hname, readToken_name hname]
    exact readNameToken_tail hstop hhead

theorem mark?_of_isLong (h : k.isLong = true) : k.mark? = none := by
  cases k <;> first | rfl | cases h

theorem isLong_readQualified (c : Char) (cs sheet : List Char) (n : Nat) :
    (readQualified c cs sheet n).1.isLong = true := by
  unfold readQualified
  dsimp only
  split
  · split <;> rfl
  · rfl

theorem isLong_readSheetToken (cs : List Char) : (readSheetToken cs).1.isLong = true := by
  unfold readSheetToken
  split
  · rfl
  · split
    · exact isLong_readQualified _ _ _ _
    · rfl

theorem isLong_readNameToken (c : Char) (cs : List Char) :
    (readNameToken c cs).1.isLong = true := by
  unfold readNameToken
  dsimp only
  split
  · exact isLong_readQualified _ _ _ _
  · rfl
  · split
    · split <;> rfl
    · rfl

theorem isLong_readErrorToken (cs : List Char) : (readErrorToken cs).1.isLong = true := by
  unfold readErrorToken
  dsimp only
  split <;> rfl

theorem isLong_readNumberToken (c : Char) (cs : List Char) :
    (readNumberToken c cs).1.isLong = true := by
  unfold readNumberToken
  dsimp only
  split <;> rfl

/-- Every token is a mark as it is written, or several characters may belong to it. -/
theorem mark_or_isLong (c : Char) (cs : List Char) :
    (∃ ms, (readToken c cs).1.mark? = some (c :: ms) ∧ (readToken c cs).2 = ms.length ∧
      ms <+: cs) ∨ (readToken c cs).1.isLong = true := by
  unfold readToken
  split
  case h_11 | h_12 | h_14 => exact .inl ⟨_, rfl, rfl, _, rfl⟩
  case h_16 => exact .inr rfl
  case h_17 => exact .inr (isLong_readErrorToken _)
  case h_18 => exact .inr (isLong_readSheetToken _)
  case h_19 =>
    split
    · exact .inr (isLong_readNumberToken _ _)
    · split
      · exact .inr (isLong_readNameToken _ _)
      · exact .inr rfl
  all_goals exact .inl ⟨[], rfl, rfl, List.nil_prefix⟩

/-- A mark is written in one way only. -/
theorem exists_of_mark? (h : (readToken c cs).1.mark? = some m) :
    ∃ ms, m = c :: ms ∧ (readToken c cs).2 = ms.length ∧ ms <+: cs := by
  rcases mark_or_isLong c cs with ⟨ms, hm, hlen, hrun⟩ | hlong
  · rw [hm] at h
    cases h
    exact ⟨ms, rfl, hlen, hrun⟩
  · rw [mark?_of_isLong hlong] at h
    cases h

theorem ReadsAs.source_eq (h : ReadsAs k source tail) (hm : k.mark? = some m) : source = m := by
  obtain ⟨c, cs, rfl, -, hread⟩ := h
  have hmark : (readToken c (cs ++ tail)).1.mark? = some m := by rw [hread]; exact hm
  obtain ⟨ms, rfl, hlen, hrun⟩ := exists_of_mark? hmark
  rw [hread] at hlen
  obtain ⟨rest, hrest⟩ := hrun
  exact congrArg _ (List.append_inj_left hrest hlen.symm).symm

/-- A mark is read in front of everything but an equals sign or a greater sign. -/
theorem readsAs_mark (hm : k.mark? = some m)
    (htail : ∀ c ∈ tail.head?, c ≠ '=' ∧ c ≠ '>') : ReadsAs k m tail := by
  have hless : readToken '<' tail = (.less, 0) ∧ readToken '>' tail = (.greater, 0) := by
    cases tail with
    | nil => exact ⟨rfl, rfl⟩
    | cons d ds =>
      obtain ⟨heq, hgt⟩ := htail d rfl
      simp [readToken, heq, hgt]
  cases k <;> cases hm
  case less => exact ⟨'<', [], rfl, by decide, hless.1⟩
  case greater => exact ⟨'>', [], rfl, by decide, hless.2⟩
  all_goals exact ⟨_, _, rfl, by decide, rfl⟩

theorem endsWord_of_mark? (hm : k.mark? = some m) : ∀ c ∈ m.head?, endsWord c = true := by
  intro c hc
  cases k <;> cases hm <;> cases hc <;> decide

end Tokens

/-! ## 2. Addresses -/

section Addresses

variable {c : Char} {cs source tail : List Char} {sheet : Option String} {a : CellRef} {n : Nat}

/-- No parenthesis that would make a name of an address. -/
def NoCall (tail : List Char) : Prop := ∀ c ∈ tail.head?, c ≠ '('

theorem isAddressChar_of_mem_chars (a : CellRef) : ∀ c ∈ a.chars, isAddressChar c = true := by
  intro c hc
  rcases CellRef.mem_chars hc with h | h | rfl
  · simp [isAddressChar, Text.isAsciiAlphanumeric, h]
  · simp [isAddressChar, Text.isAsciiAlphanumeric, h]
  · decide

theorem isNameChar_of_mem_chars (a : CellRef) : ∀ c ∈ a.chars, isNameChar c = true :=
  fun c hc => isNameChar_of_isAddressChar (isAddressChar_of_mem_chars a c hc)

theorem startsName_of_head_chars (a : CellRef) : ∀ c ∈ a.chars.head?, startsName c = true := by
  intro c hc
  rw [CellRef.chars_eq] at hc
  cases hfixed : a.colFixed with
  | true =>
    rw [hfixed] at hc
    cases hc
    decide
  | false =>
    obtain ⟨d, ds, hd⟩ := List.exists_cons_of_ne_nil (@columnLetters_ne_nil a.col)
    rw [hfixed, hd] at hc
    cases hc
    have halpha := isAlpha_columnLetters c (hd ▸ List.mem_cons_self)
    simp [startsName, Text.isLetter_of_isAlpha halpha]

/-- **A written address is read as that address.** -/
theorem readsAs_address (hgrid : a.onGrid = true) (hstop : Stops tail) (hcall : NoCall tail) :
    ReadsAs (.cell none a) a.chars tail := by
  obtain ⟨c, cs, hcs⟩ := List.exists_cons_of_ne_nil (CellRef.chars_ne_nil a)
  have hmem : ∀ d ∈ c :: cs, d ∈ a.chars := fun d hd => hcs ▸ hd
  have hrun : ∀ d ∈ cs, isNameChar d = true := fun d hd =>
    isNameChar_of_mem_chars a d (hmem d (List.mem_cons_of_mem _ hd))
  refine ⟨c, cs, hcs, CellRef.not_isBlank_of_mem_chars (hmem c List.mem_cons_self), ?_⟩
  rw [readToken_name (startsName_of_head_chars a c (by rw [hcs]; rfl))]
  have hshape : looksLikeCell (c :: cs) = true := hcs ▸ CellRef.looksLikeCell_chars a
  have hread : CellRef.readChars (c :: cs) = .ok a := hcs ▸ CellRef.readChars_chars hgrid
  unfold readNameToken
  rw [takeWhile_run hrun hstop.isNameChar]
  dsimp only
  rw [List.drop_left]
  cases tail with
  | nil => simp [hshape, hread]
  | cons d ds =>
    have hd : d ≠ '!' := (ne_of_endsWord (hstop d rfl)).1
    have hd' : d ≠ '(' := hcall d rfl
    simp [hd, hd', hshape, hread]

/-- An address after the name of a sheet. -/
theorem readQualified_address {name pre : List Char} (hgrid : a.onGrid = true)
    (hstop : Stops tail) :
    readQualified c (pre ++ (a.chars ++ tail)) name pre.length =
      (.cell (some (String.ofList name)) a, pre.length + a.chars.length) := by
  unfold readQualified
  rw [List.drop_left, takeWhile_run (isAddressChar_of_mem_chars a) hstop.isAddressChar]
  dsimp only
  rw [CellRef.readChars_chars hgrid]
  exact if_pos (CellRef.looksLikeCell_chars a)

theorem readQualified_eq_cell {name : List Char} {m : Nat}
    (h : readQualified c cs name m = (.cell sheet a, n)) :
    sheet = some (String.ofList name) ∧ n = m + ((cs.drop m).takeWhile isAddressChar).length ∧
      a.onGrid = true := by
  unfold readQualified at h
  dsimp only at h
  split at h
  · rename_i address haddress
    split at h
    · cases h
      exact ⟨rfl, rfl, CellRef.onGrid_of_readChars haddress⟩
    · cases h
  · cases h

/-- An address behind the name of a sheet, which is the same in front of every other address. -/
def Qualified (read : List Char → TokenKind × Nat) (c : Char) (cs : List Char)
    (sheet : Option String) (n : Nat) : Prop :=
  ∃ q name, sheet = some (String.ofList name) ∧ (∃ more, cs = q ++ '!' :: more ∧
    n = q.length + 1 + (more.takeWhile isAddressChar).length) ∧
    ∀ more, read (q ++ '!' :: more) = readQualified c (q ++ '!' :: more) name (q.length + 1)

theorem eq_append_of_drop {m : Nat} {rest : List Char} (h : cs.drop m = '!' :: rest) :
    cs = cs.take m ++ '!' :: rest ∧ (cs.take m).length = m ∧ cs.drop (m + 1) = rest := by
  refine ⟨?_, List.length_take_of_le (lt_length_of_drop h).le, ?_⟩
  · rw [← h, List.take_append_drop]
  · rw [← List.drop_drop, h]
    rfl

theorem readSheetToken_eq_cell (h : readSheetToken cs = (.cell sheet a, n)) :
    a.onGrid = true ∧ Qualified readSheetToken '\'' cs sheet n := by
  have hunknown : ∀ s, (readSheetToken cs).1 ≠ .unknown s := by
    rw [h]
    rintro s ⟨⟩
  obtain ⟨name, m, rest, hname, hm⟩ := exists_of_readSheetToken hunknown
  obtain ⟨hcut, hlen, hrest⟩ := eq_append_of_drop hm
  rw [readSheetToken_eq hname hm] at h
  obtain ⟨hs, hn, hgrid⟩ := readQualified_eq_cell h
  rw [hrest] at hn
  refine ⟨hgrid, cs.take m, name, hs, ⟨rest, hcut, by rw [hlen, hn]⟩, fun more => ?_⟩
  -- the name is closed in front of the exclamation mark
  have hclosed : readQuotedSheet? (cs.take m ++ '!' :: more) = some (name, m) := by
    rw [hcut] at hname
    have happend : ∀ more, cs.take m ++ '!' :: more = cs.take m ++ ['!'] ++ more := by simp
    rw [happend] at hname ⊢
    refine readQuotedSheet?_tail hname ?_
    rw [List.length_append, hlen, List.length_singleton]
    exact Nat.lt_succ_self m
  have hmark : (cs.take m ++ '!' :: more).drop m = '!' :: more := List.drop_left' hlen
  have hlast := readSheetToken_eq hclosed hmark
  rw [hlen]
  exact hlast

theorem readNameToken_eq_cell (h : readNameToken c cs = (.cell sheet a, n)) :
    a.onGrid = true ∧ ((sheet = none ∧ ∀ d ∈ cs.take n, isNameChar d = true) ∨
      Qualified (readNameToken c) c cs sheet n) := by
  have htake : cs.take (cs.takeWhile isNameChar).length = cs.takeWhile isNameChar :=
    (List.prefix_iff_eq_take.mp (List.takeWhile_prefix _)).symm
  unfold readNameToken at h
  dsimp only at h
  split at h
  · rename_i rest hm
    obtain ⟨hcut, hlen, hrest⟩ := eq_append_of_drop hm
    obtain ⟨hs, hn, hgrid⟩ := readQualified_eq_cell h
    rw [hrest] at hn
    rw [htake] at hcut
    refine ⟨hgrid, .inr ⟨cs.takeWhile isNameChar, _, hs, ⟨rest, hcut, hn⟩, fun more => ?_⟩⟩
    have hrun : (cs.takeWhile isNameChar ++ '!' :: more).takeWhile isNameChar =
        cs.takeWhile isNameChar := by
      refine takeWhile_run (fun d hd => List.mem_takeWhile_imp hd) fun d hd => ?_
      cases hd
      decide
    unfold readNameToken
    rw [hrun]
    dsimp only
    rw [List.drop_left]
    rfl
  · cases h
  · split at h
    · split at h
      · rename_i address haddress
        cases h
        refine ⟨CellRef.onGrid_of_readChars haddress, .inl ⟨rfl, fun d hd => ?_⟩⟩
        rw [htake] at hd
        exact List.mem_takeWhile_imp hd
      · cases h
    · cases h

/-- An address stands by itself, or behind the name of a sheet. -/
theorem readToken_eq_cell (h : readToken c cs = (.cell sheet a, n)) : a.onGrid = true ∧
    ((sheet = none ∧ startsName c = true ∧ ∀ d ∈ cs.take n, isNameChar d = true) ∨
      Qualified (readToken c) c cs sheet n) := by
  have hword : (readToken c cs).1.isWord = true := by rw [h]; rfl
  rcases exists_of_isWord hword with rfl | rfl | rfl | hnumber | hname
  · cases h
  · have hkind : (readErrorToken cs).1 = .cell sheet a := congrArg Prod.fst h
    unfold readErrorToken at hkind
    dsimp only at hkind
    split at hkind <;> cases hkind
  · have hsheet : readSheetToken cs = (.cell sheet a, n) := h
    exact (readSheetToken_eq_cell hsheet).imp_right .inr
  · rw [readToken_number hnumber] at h
    unfold readNumberToken at h
    dsimp only at h
    split at h <;> cases h
  · rw [readToken_name hname] at h
    obtain ⟨hgrid, ⟨hs, hrun⟩ | ⟨q, name, hs, hmore, hkeep⟩⟩ := readNameToken_eq_cell h
    · exact ⟨hgrid, .inl ⟨hs, hname, hrun⟩⟩
    · refine ⟨hgrid, .inr ⟨q, name, hs, hmore, fun more => ?_⟩⟩
      rw [readToken_name hname, hkeep]

/-- A corner as it stands in a text: with the name of its sheet in front, every address on the grid
    is read as a corner on that sheet. -/
structure Corner.Proper (corner : Corner) : Prop where
  onGrid : corner.address.onGrid = true
  reads : ∀ a : CellRef, a.onGrid = true → ∀ tail, Stops tail → NoCall tail →
    ReadsAs (.cell corner.sheet a) (corner.render a) tail

theorem markOf_of_not_mem (h : '!' ∉ source) : markOf source = [] := by
  have hall : source.reverse.dropWhile (· ≠ '!') = [] := by
    rw [List.dropWhile_eq_nil_iff]
    intro d hd
    simp only [ne_eq, decide_not, Bool.not_eq_eq_eq_not, Bool.not_true, decide_eq_false_iff_not]
    rintro rfl
    exact h (List.mem_reverse.mp hd)
  rw [markOf, hall]
  rfl

theorem markOf_append (pre : List Char) {letters : List Char} (h : '!' ∉ letters) :
    markOf (pre ++ '!' :: letters) = pre ++ ['!'] := by
  have hrun : ∀ d ∈ letters.reverse, (decide (d ≠ '!')) = true := by
    intro d hd
    rw [decide_eq_true_eq]
    rintro rfl
    exact h (List.mem_reverse.mp hd)
  have hcut : (pre ++ '!' :: letters).reverse = letters.reverse ++ '!' :: pre.reverse := by simp
  rw [markOf, hcut, dropWhile_run hrun (by rintro d ⟨⟩; decide)]
  simp

/-- **Every corner that is read is a proper one.** -/
theorem ReadsAs.proper (h : ReadsAs (.cell sheet a) source tail) :
    Corner.Proper ⟨markOf source, sheet, a⟩ := by
  obtain ⟨c, cs, rfl, hblank, hread⟩ := h
  obtain ⟨hgrid, ⟨rfl, hname, hrun⟩ | ⟨q, name, rfl, ⟨more, hcut, hn⟩, hkeep⟩⟩ :=
    readToken_eq_cell hread
  · rw [List.take_left] at hrun
    have hmark : markOf (c :: cs) = [] := by
      refine markOf_of_not_mem fun hmem => ?_
      rcases List.mem_cons.mp hmem with rfl | hmem
      · exact absurd hname (by decide)
      · exact absurd (hrun _ hmem) (by decide)
    refine ⟨hgrid, fun a' ha' tail' hstop hcall => ?_⟩
    rw [Corner.render, hmark, List.nil_append]
    exact readsAs_address ha' hstop hcall
  · have hletters : ∃ letters, cs = q ++ '!' :: letters ∧ '!' ∉ letters := by
      refine ⟨more.takeWhile isAddressChar, ?_, fun hmem => ?_⟩
      · have htake : cs = (cs ++ tail).take cs.length := List.take_left.symm
        rw [hcut, hn] at htake
        have hrun := List.prefix_iff_eq_take.mp (List.takeWhile_prefix (l := more) isAddressChar)
        rw [htake, List.take_append, List.take_of_length_le (by omega)]
        have hsub : q.length + 1 + (more.takeWhile isAddressChar).length - q.length =
            (more.takeWhile isAddressChar).length + 1 := by omega
        rw [hsub, List.take_succ_cons, ← hrun]
      · exact absurd (List.mem_takeWhile_imp hmem) (by decide)
    obtain ⟨letters, rfl, hnone⟩ := hletters
    have hmark : markOf (c :: (q ++ '!' :: letters)) = c :: (q ++ ['!']) :=
      markOf_append (c :: q) hnone
    refine ⟨hgrid, fun a' ha' tail' hstop hcall => ?_⟩
    refine ⟨c, q ++ '!' :: a'.chars, ?_, hblank, ?_⟩
    · rw [Corner.render, hmark]
      simp
    · have happend : q ++ '!' :: a'.chars ++ tail' = q ++ '!' :: (a'.chars ++ tail') := by simp
      have hpre : q ++ '!' :: (a'.chars ++ tail') = (q ++ ['!']) ++ (a'.chars ++ tail') := by simp
      have hlen : (q ++ ['!']).length = q.length + 1 := by simp
      rw [happend, hkeep, hpre, ← hlen, readQualified_address ha' hstop, List.length_append,
        List.length_append, List.length_cons, List.length_cons, List.length_nil]
      congr 1
      omega

end Addresses

/-- An error that ends in a mark of its own is read as such in front of everything. -/
theorem readsAs_error {e : ErrorValue} (h : e ≠ .notAvailable) (tail : List Char) :
    ReadsAs (.error e) e.literal.toList tail := by
  have hends : ∃ body, e.literal.toList = '#' :: body ∧
      errorLength (body ++ tail) = body.length := by
    cases e with
    | notAvailable => exact absurd rfl h
    | _ => exact ⟨_, rfl, rfl⟩
  obtain ⟨body, hbody, hlen⟩ := hends
  have hliteral : ErrorValue.ofLiteral? (String.ofList ('#' :: body)) = some e := by
    rw [← hbody, String.ofList_toList, ErrorValue.ofLiteral?_literal]
  refine ⟨'#', body, hbody, by decide, ?_⟩
  rw [readToken_error]
  unfold readErrorToken
  rw [hlen]
  dsimp only
  rw [List.take_left, hliteral]

end Gridcalc
