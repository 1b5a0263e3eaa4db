import Gridcalc.Formula.Relocate
import Gridcalc.Proofs.Formula.Lexemes

/-!
# Readers in front of another tail

How much of a text a token takes is decided by the characters after it as well. What each reader
takes stays the same when something else follows that begins alike.

* `endsWord`, `Stops`: the characters that no number, name or address goes on with;
* `readQuoted_tail`, `readSheetToken_tail`, `readNameToken_tail`, `readErrorToken_tail`,
  `readNumberToken_tail`: each reader in front of another tail.
-/

namespace Gridcalc

/-! ## 1. Ends of words -/

/-- A blank, or a character of an operator, a separator or a parenthesis. -/
def endsWord (c : Char) : Bool :=
  Text.isBlank c ||
    ['=', '+', '-', '*', '/', '&', ':', ',', '(', ')', '<', '>'].contains c

/-- A word ends in front of the tail. -/
def Stops (tail : List Char) : Prop := ∀ c ∈ tail.head?, endsWord c = true

section Ends

variable {c : Char}

/-- The code points of `endsWord`. -/
def endCodes : List Nat :=
  [9, 10, 11, 12, 13, 32, 38, 40, 41, 42, 43, 44, 45, 47, 58, 60, 61, 62, 0x85, 0xA0, 0x1680,
    0x2000, 0x2001, 0x2002, 0x2003, 0x2004, 0x2005, 0x2006, 0x2007, 0x2008, 0x2009, 0x200A, 0x2028,
    0x2029, 0x202F, 0x205F, 0x3000]

theorem mem_endCodes (h : endsWord c = true) : c.toNat ∈ endCodes := by
  rcases Bool.or_eq_true_iff.mp h with h | h
  · simp only [Text.isBlank, Bool.or_eq_true, Bool.and_eq_true, decide_eq_true_eq,
      beq_iff_eq] at h
    generalize c.toNat = n at h
    rcases h with (((((((((h | h) | h) | h) | h) | h) | h) | h) | h) | h) | h
    all_goals first
      | (subst h; decide)
      | (obtain ⟨hlo, hhi⟩ := h; interval_cases n <;> decide)
  · have hmarks : ['=', '+', '-', '*', '/', '&', ':', ',', '(', ')', '<', '>'].all
        (fun d => endCodes.contains d.toNat) = true := by decide
    exact List.contains_iff_mem.mp (List.all_eq_true.mp hmarks c (List.contains_iff_mem.mp h))

/-- What holds of the code points holds of the characters. -/
theorem forall_endsWord {P : Char → Prop} (h : ∀ n ∈ endCodes, P (Char.ofNat n))
    (hc : endsWord c = true) : P c := by
  have hcode := h c.toNat (mem_endCodes hc)
  rwa [Char.ofNat_toNat] at hcode

/-- No word goes on with one of these characters. -/
theorem isNameChar_of_endsWord (h : endsWord c = true) : isNameChar c = false := by
  refine forall_endsWord (P := fun c => isNameChar c = false) ?_ h
  -- a list is folded over faster than an array
  simp only [isNameChar, Text.isLetterOrNumber, Text.isLetter, Text.isNumeric, Text.inBounds,
    ← Array.foldl_toList]
  decide +kernel

theorem ne_of_endsWord (h : endsWord c = true) :
    c ≠ '!' ∧ c ≠ '?' ∧ c ≠ '"' ∧ c ≠ '\'' :=
  forall_endsWord (P := fun c => c ≠ '!' ∧ c ≠ '?' ∧ c ≠ '"' ∧ c ≠ '\'') (by decide) h

end Ends

/-! ## 2. Readers in front of another tail -/

section Readers

variable {c : Char} {cs tail tail' : List Char}

theorem Stops.of_head (h : Stops tail) (hhead : tail'.head? = tail.head?) : Stops tail' := by
  rw [Stops, hhead]
  exact h

theorem Stops.isNameChar (h : Stops tail) : ∀ c ∈ tail.head?, isNameChar c = false :=
  fun c hc => isNameChar_of_endsWord (h c hc)

theorem isNameChar_of_isDigit (h : c.isDigit = true) : isNameChar c = true := by
  have hascii : c.toNat < 128 := by
    simp only [Char.isDigit, Bool.and_eq_true, decide_eq_true_eq, UInt32.le_iff_toNat_le] at h
    have h57 : '9'.val.toNat = 57 := rfl
    have hval : c.toNat = c.val.toNat := rfl
    omega
  simp [Gridcalc.isNameChar, Text.isLetterOrNumber, Text.isNumeric, hascii, h]

theorem isNameChar_of_isAddressChar (h : isAddressChar c = true) : isNameChar c = true := by
  simp only [isAddressChar, Text.isAsciiAlphanumeric, Bool.or_eq_true, beq_iff_eq] at h
  rcases h with (h | h) | rfl
  · simp [Gridcalc.isNameChar, Text.isLetterOrNumber, Text.isLetter_of_isAlpha h]
  · exact isNameChar_of_isDigit h
  · decide

theorem Stops.isDigit (h : Stops tail) : ∀ c ∈ tail.head?, c.isDigit = false := fun c hc =>
  Bool.eq_false_iff.mpr fun hd =>
    absurd (isNameChar_of_isDigit hd) (Bool.eq_false_iff.mp (h.isNameChar c hc))

theorem Stops.isAddressChar (h : Stops tail) : ∀ c ∈ tail.head?, isAddressChar c = false :=
  fun c hc => Bool.eq_false_iff.mpr fun ha =>
    absurd (isNameChar_of_isAddressChar ha) (Bool.eq_false_iff.mp (h.isNameChar c hc))

theorem takeWhile_append_of_head {p : Char → Bool} (h : ∀ c ∈ tail.head?, p c = false) :
    (cs ++ tail).takeWhile p = cs.takeWhile p := by
  induction cs with
  | nil =>
    cases tail with
    | nil => rfl
    | cons c tail => simp [h c rfl]
  | cons c cs ih => simp only [List.cons_append, List.takeWhile_cons, ih]

/-! ### Texts -/

theorem readQuoted_close (h : ∀ d ∈ cs.head?, d ≠ '"') : readQuoted ('"' :: cs) = ([], 1) := by
  cases cs with
  | nil => rfl
  | cons d cs =>
    have hd : d ≠ '"' := h d rfl
    simp [readQuoted, hd]

theorem readQuoted_cons (h : c ≠ '"') :
    readQuoted (c :: cs) = (c :: (readQuoted cs).1, (readQuoted cs).2 + 1) := by
  simp [readQuoted, h]

theorem readQuoted_double (cs : List Char) :
    readQuoted ('"' :: '"' :: cs) = ('"' :: (readQuoted cs).1, (readQuoted cs).2 + 2) := rfl

theorem readQuoted_pos (c : Char) (cs : List Char) : 0 < (readQuoted (c :: cs)).2 := by
  by_cases hc : c = '"'
  · subst hc
    cases cs with
    | nil => exact Nat.one_pos
    | cons d cs =>
      by_cases hd : d = '"'
      · subst hd
        rw [readQuoted_double]
        exact Nat.succ_pos _
      · rw [readQuoted_close (by simpa using hd)]
        exact Nat.one_pos
  · rw [readQuoted_cons hc]
    exact Nat.succ_pos _

theorem readQuoted_tail (hstop : Stops tail) (hhead : tail'.head? = tail.head?)
    (h : (readQuoted (cs ++ tail)).2 = cs.length) :
    readQuoted (cs ++ tail') = readQuoted (cs ++ tail) := by
  induction cs using readQuoted.induct with
  | case1 =>
    cases tail with
    | nil =>
      cases tail' with
      | nil => rfl
      | cons c tail' => cases hhead
    | cons c tail => exact absurd h (Nat.pos_iff_ne_zero.mp (readQuoted_pos c tail))
  | case2 cs s n hs ih =>
    simp only [List.cons_append, readQuoted_double, List.length_cons, Nat.add_right_cancel_iff,
      Nat.add_assoc] at h ⊢
    rw [ih h]
  | case3 cs hquotes =>
    have hclose : ∀ tail, Stops tail → readQuoted ('"' :: cs ++ tail) = ([], 1) := by
      intro tail hstop
      refine readQuoted_close fun d hd => ?_
      cases cs with
      | nil => exact (ne_of_endsWord (hstop d hd)).2.2.1
      | cons e cs =>
        rintro rfl
        cases hd
        exact hquotes cs rfl rfl
    rw [hclose tail hstop, hclose tail' (hstop.of_head hhead)]
  | case4 c cs hquotes hquote s n hs ih =>
    rw [List.cons_append, readQuoted_cons hquote] at h ⊢
    rw [List.cons_append, readQuoted_cons hquote, ih (Nat.add_right_cancel h)]

/-! ### Names of sheets -/

theorem readQuotedSheet?_close (h : ∀ d ∈ cs.head?, d ≠ '\'') :
    readQuotedSheet? ('\'' :: cs) = some ([], 1) := by
  cases cs with
  | nil => rfl
  | cons d cs =>
    have hd : d ≠ '\'' := h d rfl
    simp [readQuotedSheet?, hd]

theorem readQuotedSheet?_cons (h : c ≠ '\'') :
    readQuotedSheet? (c :: cs) = (readQuotedSheet? cs).map fun (s, n) => (c :: s, n + 1) := by
  simp [readQuotedSheet?, h]

theorem readQuotedSheet?_double (cs : List Char) :
    readQuotedSheet? ('\'' :: '\'' :: cs) =
      (readQuotedSheet? cs).map fun (s, n) => ('\'' :: s, n + 2) := rfl

/-- The name of a sheet takes its closing quote at least. -/
theorem readQuotedSheet?_pos {sheet : List Char} {n : Nat}
    (h : readQuotedSheet? cs = some (sheet, n)) : 0 < n := by
  fun_cases readQuotedSheet? cs with
  | case1 => cases h
  | case2 cs =>
    obtain ⟨_, -, e⟩ := Option.map_eq_some_iff.mp h
    cases e
    exact Nat.succ_pos _
  | case3 cs hquotes =>
    rw [readQuotedSheet?] at h
    · cases h
      exact Nat.one_pos
    · exact hquotes
  | case4 c cs hquotes hquote =>
    rw [readQuotedSheet?_cons hquote] at h
    obtain ⟨_, -, e⟩ := Option.map_eq_some_iff.mp h
    cases e
    exact Nat.succ_pos _

/-- A closed sheet name is the same in front of every tail. -/
theorem readQuotedSheet?_tail {sheet : List Char} {n : Nat}
    (h : readQuotedSheet? (cs ++ tail) = some (sheet, n)) (hn : n < cs.length) :
    readQuotedSheet? (cs ++ tail') = some (sheet, n) := by
  induction cs using readQuotedSheet?.induct generalizing sheet n with
  | case1 => cases hn
  | case2 cs ih =>
    rw [List.cons_append, List.cons_append, readQuotedSheet?_double] at h ⊢
    obtain ⟨⟨s, m⟩, hs, e⟩ := Option.map_eq_some_iff.mp h
    cases e
    rw [ih hs (by simpa using hn)]
    rfl
  | case3 cs hquotes =>
    cases cs with
    | nil =>
      -- the name would be closed by the last character at the earliest
      exact absurd (readQuotedSheet?_pos h) (Nat.not_lt.mpr (Nat.lt_one_iff.mp hn).le)
    | cons e cs =>
      have he : ∀ tail, ∀ d ∈ (e :: cs ++ tail).head?, d ≠ '\'' := by
        intro tail d hd
        rintro rfl
        cases hd
        exact hquotes cs rfl rfl
      rw [List.cons_append, readQuotedSheet?_close (he tail)] at h
      rw [List.cons_append, readQuotedSheet?_close (he tail'), h]
  | case4 c cs hquotes hquote ih =>
    rw [List.cons_append, readQuotedSheet?_cons hquote] at h ⊢
    obtain ⟨⟨s, m⟩, hs, e⟩ := Option.map_eq_some_iff.mp h
    cases e
    rw [ih hs (by simpa using hn)]
    rfl

theorem unknownToken_tail {n : Nat} (h : n ≤ cs.length) :
    unknownToken c (cs ++ tail') n = unknownToken c (cs ++ tail) n := by
  rw [unknownToken, unknownToken, List.take_append_of_le_length h, List.take_append_of_le_length h]

theorem readQualified_tail (hstop : Stops tail) (hhead : tail'.head? = tail.head?)
    {sheet : List Char} {n : Nat} (hn : n ≤ cs.length) :
    readQualified c (cs ++ tail') sheet n = readQualified c (cs ++ tail) sheet n := by
  have hletters : ∀ tail, Stops tail → ((cs ++ tail).drop n).takeWhile isAddressChar =
      (cs.drop n).takeWhile isAddressChar := by
    intro tail hstop
    rw [List.drop_append_of_le_length hn, takeWhile_append_of_head hstop.isAddressChar]
  have htotal : n + ((cs.drop n).takeWhile isAddressChar).length ≤ cs.length := by
    have hlen := ((cs.drop n).takeWhile_sublist isAddressChar).length_le
    rw [List.length_drop] at hlen
    omega
  unfold readQualified
  rw [hletters tail hstop, hletters tail' (hstop.of_head hhead)]
  dsimp only
  rw [unknownToken_tail htotal]

theorem le_length_readQualified (c : Char) (cs sheet : List Char) (n : Nat) :
    n ≤ (readQualified c cs sheet n).2 := by
  unfold readQualified
  dsimp only
  split
  · split <;> exact Nat.le_add_right _ _
  · exact Nat.le_add_right _ _

theorem readSheetToken_eq {sheet rest : List Char} {n : Nat}
    (hsheet : readQuotedSheet? cs = some (sheet, n)) (hdrop : cs.drop n = '!' :: rest) :
    readSheetToken cs = readQualified '\'' cs sheet (n + 1) := by
  unfold readSheetToken
  rw [hsheet]
  dsimp only
  rw [hdrop]
  rfl

theorem exists_of_readSheetToken (h : ∀ s, (readSheetToken cs).1 ≠ .unknown s) :
    ∃ sheet n rest, readQuotedSheet? cs = some (sheet, n) ∧ cs.drop n = '!' :: rest := by
  unfold readSheetToken at h
  split at h
  · exact absurd rfl (h _)
  · rename_i sheet n hsheet
    split at h
    · rename_i rest hdrop
      exact ⟨sheet, n, rest, hsheet, hdrop⟩
    · exact absurd rfl (h _)

theorem readSheetToken_tail (hstop : Stops tail) (hhead : tail'.head? = tail.head?)
    (h : (readSheetToken (cs ++ tail)).2 = cs.length)
    (hword : ∀ s, (readSheetToken (cs ++ tail)).1 ≠ .unknown s) :
    readSheetToken (cs ++ tail') = readSheetToken (cs ++ tail) := by
  obtain ⟨sheet, n, rest, hsheet, hdrop⟩ := exists_of_readSheetToken hword
  rw [readSheetToken_eq hsheet hdrop] at h ⊢
  have hn : n + 1 ≤ cs.length := h ▸ le_length_readQualified _ _ _ _
  have hdrop' : ∃ rest', (cs ++ tail').drop n = '!' :: rest' := by
    rw [List.drop_append_of_le_length (Nat.le_of_succ_le hn)] at hdrop ⊢
    obtain ⟨e, es, he⟩ := List.exists_cons_of_ne_nil
      (List.ne_nil_of_length_pos (l := cs.drop n) (by rw [List.length_drop]; omega))
    rw [he] at hdrop ⊢
    cases hdrop
    exact ⟨_, rfl⟩
  obtain ⟨rest', hdrop'⟩ := hdrop'
  rw [readSheetToken_eq (readQuotedSheet?_tail hsheet hn) hdrop']
  exact readQualified_tail hstop hhead hn

/-! ### Names and addresses -/

/-- A name is decided by the run of name characters and the character after it. -/
theorem readNameToken_tail (hstop : Stops tail) (hhead : tail'.head? = tail.head?) :
    readNameToken c (cs ++ tail') = readNameToken c (cs ++ tail) := by
  have hstop' := hstop.of_head hhead
  have hlen := (cs.takeWhile_sublist isNameChar).length_le
  unfold readNameToken
  rw [takeWhile_append_of_head hstop.isNameChar, takeWhile_append_of_head hstop'.isNameChar]
  dsimp only
  rw [List.drop_append_of_le_length hlen, List.drop_append_of_le_length hlen]
  cases hdrop : cs.drop (cs.takeWhile isNameChar).length with
  | cons d ds =>
    have hn := lt_length_of_drop hdrop
    by_cases hd : d = '!'
    · subst hd
      exact readQualified_tail hstop hhead hn
    · by_cases hd' : d = '('
      · subst hd'
        rfl
      · simp [hd, hd']
  | nil =>
    cases tail with
    | nil =>
      cases tail' with
      | nil => rfl
      | cons d' ds' => cases hhead
    | cons d ds =>
      cases tail' with
      | nil => cases hhead
      | cons d' ds' =>
        cases hhead
        have hd : d ≠ '!' := (ne_of_endsWord (hstop d rfl)).1
        by_cases hd' : d = '('
        · subst hd'
          rfl
        · simp [hd, hd']

/-! ### Errors -/

theorem errorLength_tail (hhead : tail'.head? = tail.head?)
    (h : errorLength (cs ++ tail) = cs.length) : errorLength (cs ++ tail') = cs.length := by
  induction cs with
  | nil =>
    cases tail with
    | nil =>
      cases tail' with
      | nil => rfl
      | cons d ds => cases hhead
    | cons d ds =>
      cases tail' with
      | nil => cases hhead
      | cons d' ds' =>
        cases hhead
        simp only [List.nil_append, List.length_nil, errorLength] at h ⊢
        split at h
        · cases h
        · rename_i hend
          rw [if_neg hend]
          split at h
          · cases h
          · rename_i hgo
            rw [if_neg hgo]
  | cons c cs ih =>
    simp only [List.cons_append, List.length_cons, errorLength] at h ⊢
    split at h
    · rename_i hend
      rw [if_pos hend]
      exact h
    · rename_i hend
      rw [if_neg hend]
      split at h
      · rename_i hgo
        rw [if_pos hgo, ih (Nat.add_right_cancel h)]
      · cases h

theorem readErrorToken_snd (cs : List Char) : (readErrorToken cs).2 = errorLength cs := by
  unfold readErrorToken
  dsimp only
  split <;> rfl

theorem readErrorToken_tail (hhead : tail'.head? = tail.head?)
    (h : (readErrorToken (cs ++ tail)).2 = cs.length) :
    readErrorToken (cs ++ tail') = readErrorToken (cs ++ tail) := by
  rw [readErrorToken_snd] at h
  unfold readErrorToken
  rw [errorLength_tail hhead h, h]
  dsimp only
  rw [List.take_left, List.take_left, unknownToken_tail (Nat.le_refl _)]

/-! ### Numbers -/

/-- The characters of a fraction. -/
theorem numberLength_eq (cs : List Char) :
    numberLength cs =
      let whole := (cs.takeWhile Char.isDigit).length
      let rest := cs.drop whole
      let fraction :=
        if rest.head? = some '.' then 1 + (rest.tail.takeWhile Char.isDigit).length else 0
      whole + fraction + exponentLength (cs.drop (whole + fraction)) := by
  unfold numberLength
  dsimp only
  cases cs.drop (cs.takeWhile Char.isDigit).length with
  | nil => rfl
  | cons d ds =>
    by_cases hd : d = '.'
    · subst hd
      rfl
    · simp [hd]

theorem exponentLength_cons (e d : Char) (ds : List Char) :
    exponentLength (e :: d :: ds) =
      let signs := if d = '+' ∨ d = '-' then 1 else 0
      let digits := ((d :: ds).drop signs).takeWhile Char.isDigit
      if (e = 'e' ∨ e = 'E') ∧ digits ≠ [] then 1 + signs + digits.length else 0 := by
  unfold exponentLength
  by_cases hplus : d = '+'
  · subst hplus
    rfl
  · by_cases hminus : d = '-'
    · subst hminus
      rfl
    · simp [hplus, hminus]

theorem exponentLength_of_head (h : ∀ d ∈ cs.head?, d ≠ 'e' ∧ d ≠ 'E') : exponentLength cs = 0 := by
  cases cs with
  | nil => rfl
  | cons d ds =>
    obtain ⟨he, hE⟩ := h d rfl
    simp [exponentLength, he, hE]

/-- An exponent is no single letter. -/
theorem exponentLength_ne_one (cs : List Char) : exponentLength cs ≠ 1 := by
  cases cs with
  | nil => exact Nat.zero_ne_one
  | cons e cs =>
    unfold exponentLength
    dsimp only
    split
    all_goals
      split
      · rename_i hdigits
        have := List.length_pos_iff.mpr hdigits.2
        omega
      · exact Nat.zero_ne_one

theorem Stops.no_exponent (h : Stops tail) : exponentLength tail = 0 := by
  refine exponentLength_of_head fun d hd => ?_
  have hname := h.isNameChar d hd
  refine ⟨?_, ?_⟩ <;>
  · rintro rfl
    exact absurd hname (by decide)

theorem exponentLength_tail (hstop : Stops tail) (hstop' : Stops tail')
    (h : exponentLength (cs ++ tail) = cs.length) : exponentLength (cs ++ tail') = cs.length := by
  match cs with
  | [] => exact hstop'.no_exponent
  | [e] => exact absurd h (exponentLength_ne_one _)
  | e :: d :: ds =>
    have hdigits : ∀ tail, Stops tail → ∀ signs ≤ 1,
        ((d :: (ds ++ tail)).drop signs).takeWhile Char.isDigit =
          ((d :: ds).drop signs).takeWhile Char.isDigit := by
      intro tail hstop signs hsigns
      rw [← List.cons_append, List.drop_append_of_le_length (by rw [List.length_cons]; omega),
        takeWhile_append_of_head hstop.isDigit]
    have hsigns : (if d = '+' ∨ d = '-' then 1 else 0) ≤ 1 := by split <;> omega
    rw [List.cons_append, List.cons_append, exponentLength_cons] at h ⊢
    dsimp only at h ⊢
    rw [hdigits _ hstop _ hsigns] at h
    rw [hdigits _ hstop' _ hsigns]
    exact h

theorem numberLength_tail (hstop : Stops tail) (hhead : tail'.head? = tail.head?)
    (h : numberLength (cs ++ tail) = cs.length) : numberLength (cs ++ tail') = cs.length := by
  have hstop' := hstop.of_head hhead
  have hwhole := (cs.takeWhile_sublist Char.isDigit).length_le
  rw [numberLength_eq] at h ⊢
  dsimp only at h ⊢
  rw [takeWhile_append_of_head hstop.isDigit, List.drop_append_of_le_length hwhole] at h
  rw [takeWhile_append_of_head hstop'.isDigit, List.drop_append_of_le_length hwhole]
  have hpoint : ∀ tail, Stops tail → ∀ d ∈ tail.head?, d ≠ '.' := by
    intro tail hstop d hd
    rintro rfl
    exact absurd (hstop.isNameChar _ hd) (by decide)
  generalize (cs.takeWhile Char.isDigit).length = whole at hwhole h ⊢
  -- the fraction lies in front of the tail
  have hfraction : ∃ fraction, whole + fraction ≤ cs.length ∧ ∀ tail, Stops tail →
      (if (cs.drop whole ++ tail).head? = some '.' then
        1 + ((cs.drop whole ++ tail).tail.takeWhile Char.isDigit).length else 0) = fraction := by
    cases hdrop : cs.drop whole with
    | nil =>
      refine ⟨0, hwhole, fun tail hstop => if_neg fun e => ?_⟩
      exact hpoint tail hstop '.' e rfl
    | cons d ds =>
      have hlen := congrArg List.length hdrop
      rw [List.length_drop, List.length_cons] at hlen
      by_cases hd : d = '.'
      · subst hd
        refine ⟨1 + (ds.takeWhile Char.isDigit).length, ?_, fun tail hstop => ?_⟩
        · have := (ds.takeWhile_sublist Char.isDigit).length_le
          omega
        · rw [List.cons_append, List.head?_cons, if_pos rfl, List.tail_cons,
            takeWhile_append_of_head hstop.isDigit]
      · refine ⟨0, hwhole, fun tail hstop => if_neg fun e => ?_⟩
        cases e
        exact hd rfl
  obtain ⟨fraction, hle, hfraction⟩ := hfraction
  rw [hfraction tail hstop, List.drop_append_of_le_length hle] at h
  rw [hfraction tail' hstop', List.drop_append_of_le_length hle]
  have hlen : (cs.drop (whole + fraction)).length = cs.length - (whole + fraction) :=
    List.length_drop
  have hexponent : exponentLength (cs.drop (whole + fraction) ++ tail') =
      (cs.drop (whole + fraction)).length := exponentLength_tail hstop hstop' (by omega)
  omega

theorem numberLength_pos (h : startsNumber c cs = true) : 0 < numberLength (c :: cs) := by
  rw [numberLength_eq]
  dsimp only
  rw [startsNumber, Bool.or_eq_true, Bool.and_eq_true, beq_iff_eq] at h
  rcases h with h | ⟨rfl, h⟩
  · simp only [List.takeWhile_cons, h, if_true, List.length_cons]
    omega
  · simp

theorem startsNumber_append (hhead : tail'.head? = tail.head?) :
    startsNumber c (cs ++ tail') = startsNumber c (cs ++ tail) := by
  unfold startsNumber
  cases cs with
  | nil => rw [List.nil_append, List.nil_append, hhead]
  | cons d ds => rfl

theorem readNumberToken_snd (c : Char) (cs : List Char) :
    (readNumberToken c cs).2 = numberLength (c :: cs) - 1 := by
  unfold readNumberToken
  dsimp only
  split <;> rfl

theorem readNumberToken_tail (hstop : Stops tail) (hhead : tail'.head? = tail.head?)
    (hstarts : startsNumber c (cs ++ tail) = true)
    (h : (readNumberToken c (cs ++ tail)).2 = cs.length) :
    readNumberToken c (cs ++ tail') = readNumberToken c (cs ++ tail) := by
  have hpos := numberLength_pos hstarts
  rw [readNumberToken_snd] at h
  have hlen : numberLength (c :: cs ++ tail) = (c :: cs).length := by
    rw [List.cons_append, List.length_cons]
    omega
  have hlen' := numberLength_tail hstop hhead hlen
  rw [List.cons_append, List.length_cons] at hlen hlen'
  unfold readNumberToken
  rw [hlen, hlen', Nat.add_sub_cancel]
  dsimp only
  rw [List.take_left, List.take_left, unknownToken_tail (Nat.le_refl _)]

end Readers

end Gridcalc
