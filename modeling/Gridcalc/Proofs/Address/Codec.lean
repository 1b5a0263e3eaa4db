import Gridcalc.Proofs.Address.Spelling
import Mathlib.Data.List.Induction
import Mathlib.Data.List.Shortlex
import Mathlib.Data.Nat.Digits.Defs

/-!
# Addresses as numerals

Columns are numerals to the base 26 with digits from one to 26, rows are decimal numerals. What is
read, what is written, and how the written columns are ordered follow from that.

* `numeral`, `lettersNumber`, `digitsNumber`: the numbers that letters and digits stand for;
* `readColumn_eq_ok_iff`, `CellRef.readRow_eq_ok_iff`: what the two readers accept;
* `columnLetters_lettersNumber`, `naturalText_digitsNumber`: the numerals that are written again;
* `shortlex_columnLetters`: columns in their order have longer letters, or later ones;
* `CellRef.Spells`, `CellRef.read_exact`: **an address is read exactly where it is spelled**, and is
  written as it was spelled.
-/

namespace Gridcalc

/-! ## 1. Numerals -/

/-- The number that some digits stand for to a base. -/
def numeral (base : Nat) (digit : Char → Nat) (cs : List Char) : Nat :=
  Nat.ofDigits base (cs.reverse.map digit)

/-- The place of a letter in the alphabet, counted from one. -/
def letterDigit (c : Char) : Nat := c.toUpper.toNat - 'A'.toNat + 1

/-- The column that letters denote, counted from one. -/
def lettersNumber (letters : List Char) : Nat := numeral 26 letterDigit letters

/-- The row that digits denote, counted from one. -/
def digitsNumber (digits : List Char) : Nat := numeral 10 (fun c => c.toNat - '0'.toNat) digits

section Numerals

variable {base n m : Nat} {digit : Char → Nat} {c : Char} {cs : List Char}

theorem numeral_concat (base : Nat) (digit : Char → Nat) (cs : List Char) (c : Char) :
    numeral base digit (cs ++ [c]) = numeral base digit cs * base + digit c := by
  rw [numeral, List.reverse_append, List.reverse_singleton, List.singleton_append, List.map_cons,
    Nat.ofDigits_cons, Nat.add_comm, Nat.mul_comm]
  rfl

/-- A numeral is read from the left. -/
theorem foldl_eq_numeral (base : Nat) (digit : Char → Nat) (cs : List Char) :
    cs.foldl (fun n c => n * base + digit c) 0 = numeral base digit cs := by
  induction cs using List.reverseRecOn with
  | nil => rfl
  | append_singleton cs c ih =>
    rw [List.foldl_append, List.foldl_cons, List.foldl_nil, ih, numeral_concat]

theorem digitsValue_eq (cs : List Char) : digitsValue cs = digitsNumber cs :=
  foldl_eq_numeral 10 _ cs

theorem ascii_of_isAlpha (h : c.isAlpha = true) : c.toNat < 128 := by
  have hcode := isAlpha_iff.mp h
  omega

/-- The capitals of letters are the characters from A to Z. -/
theorem toUpper_of_isAlpha (h : c.isAlpha = true) :
    65 ≤ c.toUpper.toNat ∧ c.toUpper.toNat ≤ 90 ∧ c.utf8Size = 1 := by
  refine forall_ascii (P := fun c => c.isAlpha = true →
    65 ≤ c.toUpper.toNat ∧ c.toUpper.toNat ≤ 90 ∧ c.utf8Size = 1) ?_ (ascii_of_isAlpha h) h
  decide

theorem toUpper_of_isUpper (h : c.isUpper = true) : c.toUpper = c := by
  exact forall_ascii (P := fun c => c.isUpper = true → c.toUpper = c) (by decide)
    (ascii_of_isAlpha (isAlpha_of_isUpper h)) h

theorem lettersValue_eq_ok_iff : lettersValue n cs = .ok m ↔
    (∀ c ∈ cs, c.isAlpha = true) ∧ cs.foldl (fun n c => n * 26 + letterDigit c) n = m := by
  induction cs generalizing n with
  | nil => simp [lettersValue]
  | cons c cs ih =>
    rw [lettersValue, List.forall_mem_cons, List.foldl_cons, and_assoc]
    split
    · rename_i halpha
      rw [← letterDigit, ih]
      exact (and_iff_right halpha).symm
    · rename_i hnone
      constructor
      · intro h
        cases h
      · exact fun h => absurd h.1 hnone

/-- Letters denote a column. -/
theorem lettersNumber_pos (hne : cs ≠ []) : 0 < lettersNumber cs := by
  induction cs using List.reverseRecOn with
  | nil => exact absurd rfl hne
  | append_singleton cs c ih =>
    rw [lettersNumber, numeral_concat, letterDigit]
    omega

/-- **What letters are read as a column**: at most three, of a column of the grid. -/
theorem readColumn_eq_ok_iff {letters : List Char} {col : Nat} :
    readColumn letters = .ok col ↔ letters ≠ [] ∧ letters.length ≤ 3 ∧
      (∀ c ∈ letters, c.isAlpha = true) ∧ lettersNumber letters = col + 1 ∧ col < maxColumns := by
  have hbytes : (∀ c ∈ letters, c.isAlpha = true) → byteLength letters = letters.length :=
    fun halpha => byteLength_eq_length fun c hc => (toUpper_of_isAlpha (halpha c hc)).2.2
  constructor
  · intro h
    have hlt := CellRef.lt_of_readColumn h
    unfold readColumn at h
    split at h
    · cases h
    rename_i hne
    rw [List.isEmpty_iff] at hne
    split at h
    · cases h
    rename_i hshort
    split at h
    · cases h
    rename_i n hvalue
    obtain ⟨halpha, hn⟩ := lettersValue_eq_ok_iff.mp hvalue
    rw [foldl_eq_numeral] at hn
    rw [hbytes halpha] at hshort
    split at h
    · cases h
      have hpos := lettersNumber_pos hne
      refine ⟨hne, Nat.not_lt.mp hshort, halpha, ?_, hlt⟩
      show numeral 26 letterDigit letters = n - 1 + 1
      rw [lettersNumber, hn] at hpos
      omega
    · cases h
  · rintro ⟨hne, hshort, halpha, hnumber, hlt⟩
    have hvalue : lettersValue 0 letters = .ok (col + 1) :=
      lettersValue_eq_ok_iff.mpr ⟨halpha, (foldl_eq_numeral 26 letterDigit letters).trans hnumber⟩
    unfold readColumn
    rw [if_neg (by rwa [List.isEmpty_iff]), if_neg (by rw [hbytes halpha]; omega), hvalue]
    exact if_pos hlt

/-- **What digits are read as a row**: those of a row of the grid, zeros in front of them or not. -/
theorem CellRef.readRow_eq_ok_iff {whole digits : List Char} {row : Nat} :
    readRow whole digits = .ok row ↔ digits ≠ [] ∧ (∀ c ∈ digits, c.isDigit = true) ∧
      digitsNumber digits = row + 1 ∧ row < maxRows := by
  have hmax : maxRows < twoTo 32 := by decide
  rw [← digitsValue_eq]
  constructor
  · intro h
    have hlt := lt_of_readRow h
    unfold readRow at h
    split at h
    · cases h
    rename_i hshape
    simp only [Bool.or_eq_true, List.isEmpty_iff, Bool.not_eq_true', not_or, Bool.not_eq_false,
      List.all_eq_true] at hshape
    dsimp only at h
    split at h
    · cases h
    split at h
    · cases h
    rename_i hzero
    split at h
    · cases h
      exact ⟨hshape.1, hshape.2, (Nat.succ_pred_eq_of_ne_zero hzero).symm, hlt⟩
    · cases h
  · rintro ⟨hne, hdigits, hnumber, hlt⟩
    have hempty : digits.isEmpty = false := by rwa [List.isEmpty_eq_false_iff]
    have hall : digits.all Char.isDigit = true := List.all_eq_true.mpr hdigits
    unfold readRow
    simp only [hempty, hall, hnumber, Bool.not_true, Bool.or_false, Bool.false_eq_true, if_false,
      Nat.add_sub_cancel, hlt, if_true]
    rw [if_neg (by omega), if_neg (by omega)]

end Numerals

/-! ## 2. Numerals that are written again -/

section Written

variable {c : Char} {letters digits cs : List Char} {a b n : Nat}

theorem capital_letterDigit (h : c.isAlpha = true) : capital (letterDigit c - 1) = c.toUpper := by
  obtain ⟨hlow, -, -⟩ := toUpper_of_isAlpha h
  have hA : 'A'.toNat = 65 := rfl
  have hcode : 'A'.toNat + (letterDigit c - 1) = c.toUpper.toNat := by
    rw [letterDigit]
    omega
  rw [capital, hcode, Char.ofNat_toNat]

/-- The letters of the column that letters denote are their capitals. -/
theorem lettersBackwards_lettersNumber (h : ∀ c ∈ letters, c.isAlpha = true) :
    lettersBackwards (lettersNumber letters) = (letters.map Char.toUpper).reverse := by
  induction letters using List.reverseRecOn with
  | nil => exact lettersBackwards_zero
  | append_singleton letters c ih =>
    have hc := h c (List.mem_append_right _ List.mem_cons_self)
    obtain ⟨hlow, hhigh, -⟩ := toUpper_of_isAlpha hc
    have hA : 'A'.toNat = 65 := rfl
    obtain ⟨k, hk⟩ : ∃ k, letterDigit c = k + 1 := ⟨_, rfl⟩
    have hk26 : k < 26 := by
      rw [letterDigit] at hk
      omega
    have hcapital := capital_letterDigit hc
    have hprevious := ih fun d hd => h d (List.mem_append_left _ hd)
    rw [hk, Nat.add_sub_cancel] at hcapital
    have hlast : (lettersNumber letters * 26 + k) % 26 = k := by omega
    have hfront : (lettersNumber letters * 26 + k) / 26 = lettersNumber letters := by omega
    rw [lettersNumber, numeral_concat, ← lettersNumber, hk, ← Nat.add_assoc, lettersBackwards_succ,
      hlast, hfront, hprevious, hcapital, List.map_append, List.reverse_append]
    rfl

/-- **Letters that are read as a column are written as their capitals.** -/
theorem columnLetters_of_readColumn {col : Nat} (h : readColumn letters = .ok col) :
    columnLetters col = letters.map Char.toUpper := by
  obtain ⟨-, -, halpha, hnumber, -⟩ := readColumn_eq_ok_iff.mp h
  rw [columnLetters, ← hnumber, lettersBackwards_lettersNumber halpha, List.reverse_reverse]

theorem digitChar_sub {c : Char} (h : c.isDigit = true) :
    (c.toNat - '0'.toNat).digitChar = c := by
  have hbounds := isDigit_iff.mp h
  exact forall_ascii (P := fun c => c.isDigit = true → (c.toNat - '0'.toNat).digitChar = c)
    (by decide) (by omega) h

theorem digitsNumber_eq_zero_iff (h : ∀ c ∈ digits, c.isDigit = true) :
    digitsNumber digits = 0 ↔ ∀ c ∈ digits, (c == '0') = true := by
  induction digits using List.reverseRecOn with
  | nil => simp [digitsNumber, numeral]
  | append_singleton digits c ih =>
    have hdigit := isDigit_iff.mp (h c (List.mem_append_right _ List.mem_cons_self))
    have hzero : '0'.toNat = 48 := rfl
    have hc : c.toNat - '0'.toNat = 0 ↔ (c == '0') = true := by
      rw [beq_iff_eq, ← Char.toNat_inj]
      omega
    rw [digitsNumber, numeral_concat, Nat.add_eq_zero_iff, Nat.mul_eq_zero, List.forall_mem_append,
      List.forall_mem_singleton, hc, ← ih fun d hd => h d (List.mem_append_left _ hd)]
    simp [digitsNumber]

/-- **Digits of a number that is not zero are written again without the zeros in front.** -/
theorem naturalText_digitsNumber (h : ∀ c ∈ digits, c.isDigit = true)
    (hpos : 0 < digitsNumber digits) :
    naturalText (digitsNumber digits) = digits.dropWhile (· == '0') := by
  induction digits using List.reverseRecOn with
  | nil => cases hpos
  | append_singleton digits c ih =>
    have hdigit := h c (List.mem_append_right _ List.mem_cons_self)
    have hbounds := isDigit_iff.mp hdigit
    have hzero : '0'.toNat = 48 := rfl
    have hlt : c.toNat - '0'.toNat < 10 := by omega
    have hfront : ∀ d ∈ digits, d.isDigit = true := fun d hd => h d (List.mem_append_left _ hd)
    rw [digitsNumber, numeral_concat, ← digitsNumber] at hpos ⊢
    rcases Nat.eq_zero_or_pos (digitsNumber digits) with hnone | hsome
    · -- only zeros stand in front of the last digit
      have hzeros := (digitsNumber_eq_zero_iff hfront).mp hnone
      have hne : (c == '0') = false := by
        rw [beq_eq_false_iff_ne]
        rintro rfl
        rw [hnone] at hpos
        exact absurd hpos (by decide)
      rw [List.dropWhile_append_of_pos hzeros, List.dropWhile_cons_of_neg (by simp [hne]), hnone,
        Nat.zero_mul, Nat.zero_add, naturalText, Nat.toDigits_of_lt_base hlt, digitChar_sub hdigit]
    · have hkeep : (digits.dropWhile (· == '0')).isEmpty = false := by
        rw [← ih hfront hsome, List.isEmpty_eq_false_iff]
        exact naturalText_ne_nil _
      rw [List.dropWhile_append, hkeep, if_neg Bool.false_ne_true, ← ih hfront hsome, Nat.mul_comm,
        naturalText, ← Nat.toDigits_append_toDigits (by decide) hsome hlt,
        Nat.toDigits_of_lt_base hlt, digitChar_sub hdigit]
      rfl

end Written

/-! ## 3. The order of columns -/

section Order

variable {a b n m : Nat}

theorem isUpper_capital {k : Nat} (h : k < 26) : (capital k).isUpper = true := by
  have hcodes : ∀ k < 26, (capital k).isUpper = true := by decide
  exact hcodes k h

theorem capital_lt {j k : Nat} (hk : k < 26) (h : j < k) : capital j < capital k := by
  have hcodes : ∀ k < 26, ∀ j < k, capital j < capital k := by decide
  exact hcodes k hk j h

/-- A longer text stays behind a shorter one, and a later one behind an earlier one, whatever
    character is added to either. -/
theorem shortlex_concat {s t : List Char} (h : List.Shortlex (· < ·) s t) (c d : Char) :
    List.Shortlex (· < ·) (s ++ [c]) (t ++ [d]) := by
  rw [List.shortlex_def] at h ⊢
  rw [List.length_append, List.length_append]
  rcases h with hlt | ⟨hlength, hlex⟩
  · exact .inl (Nat.add_lt_add_right hlt 1)
  · refine .inr ⟨congrArg (· + 1) hlength, ?_⟩
    induction hlex with
    | nil => cases hlength
    | rel hr => exact .rel hr
    | cons _ ih => exact .cons (ih (Nat.succ.inj hlength))

/-- The letters of a later column stand behind those of an earlier one. -/
theorem shortlex_letters (h : n < m) : List.Shortlex (· < ·) (lettersBackwards n).reverse
    (lettersBackwards m).reverse := by
  induction n using Nat.strongRecOn generalizing m with
  | ind n ih =>
    obtain ⟨m, rfl⟩ := Nat.exists_eq_succ_of_ne_zero (Nat.ne_zero_of_lt h)
    rw [lettersBackwards_succ, List.reverse_cons]
    cases n with
    | zero =>
      refine .of_length_lt ?_
      rw [lettersBackwards_zero, List.length_append]
      exact Nat.succ_pos _
    | succ n =>
      rw [lettersBackwards_succ, List.reverse_cons]
      have hle : n / 26 ≤ m / 26 := by omega
      rcases Nat.lt_or_eq_of_le hle with hlt | heq
      · exact shortlex_concat (ih (n / 26) (by omega) hlt) _ _
      · rw [heq]
        have hlast : capital (n % 26) < capital (m % 26) :=
          capital_lt (Nat.mod_lt m (by decide)) (by omega)
        exact ((List.shortlex_singleton_iff _ _).mpr hlast).append_left _

/-- **Columns in their order have longer letters, or later ones.** -/
theorem shortlex_columnLetters :
    List.Shortlex (· < ·) (columnLetters a) (columnLetters b) ↔ a < b := by
  constructor
  · intro h
    rcases Nat.lt_trichotomy a b with hlt | rfl | hlt
    · exact hlt
    · exact absurd h (irrefl _)
    · exact absurd h (asymm (shortlex_letters (Nat.succ_lt_succ hlt)))
  · exact fun h => shortlex_letters (Nat.succ_lt_succ h)

end Order

/-! ## 4. Addresses -/

namespace CellRef

/-- A text that spells an address: one to three letters that denote the column and digits that
    denote the row, each with a dollar sign in front where it is fixed, and nothing else. -/
structure Spells (cs : List Char) (r : CellRef) (letters digits : List Char) : Prop where
  parts : cs = sign r.colFixed ++ (letters ++ (sign r.rowFixed ++ digits))
  letters_ne : letters ≠ []
  letters_le : letters.length ≤ 3
  isAlpha : ∀ c ∈ letters, c.isAlpha = true
  column : lettersNumber letters = r.col + 1
  col_lt : r.col < maxColumns
  digits_ne : digits ≠ []
  isDigit : ∀ c ∈ digits, c.isDigit = true
  row : digitsNumber digits = r.row + 1
  row_lt : r.row < maxRows

variable {r : CellRef} {cs letters digits : List Char} {s : String}

theorem eq_sign_takeDollar (cs : List Char) :
    cs = sign (takeDollar cs).1 ++ (takeDollar cs).2 := by
  unfold takeDollar
  split <;> rfl

/-- What is read is spelled. -/
theorem spells_of_readTrimmed (h : readTrimmed cs = .ok r) :
    ∃ letters digits, Spells cs r letters digits := by
  have hcol := eq_sign_takeDollar cs
  unfold readTrimmed at h
  split at h
  · cases h
  dsimp only at h
  generalize takeDollar cs = front at h hcol
  obtain ⟨colFixed, rest⟩ := front
  have hrest := (List.takeWhile_append_dropWhile (p := Char.isAlpha) (l := rest)).symm
  generalize rest.takeWhile Char.isAlpha = letters at h hrest
  have hrow := eq_sign_takeDollar (rest.dropWhile Char.isAlpha)
  generalize takeDollar (rest.dropWhile Char.isAlpha) = behind at h hrow
  obtain ⟨rowFixed, digits⟩ := behind
  split at h
  · cases h
  split at h
  · cases h
  rename_i col hcolumn
  split at h
  · cases h
  rename_i row hline
  cases h
  obtain ⟨hne, hshort, halpha, hnumber, hlt⟩ := readColumn_eq_ok_iff.mp hcolumn
  obtain ⟨hne', hdigit, hnumber', hlt'⟩ := readRow_eq_ok_iff.mp hline
  refine ⟨letters, digits, ?_, hne, hshort, halpha, hnumber, hlt, hne', hdigit, hnumber', hlt'⟩
  rw [← hrow, ← hrest]
  exact hcol

/-- What is spelled is read. -/
theorem Spells.readTrimmed_eq (h : Spells cs r letters digits) : readTrimmed cs = .ok r := by
  rw [h.parts]
  exact readTrimmed_parts h.isAlpha h.letters_ne h.isDigit
    (readColumn_eq_ok_iff.mpr ⟨h.letters_ne, h.letters_le, h.isAlpha, h.column, h.col_lt⟩)
    (fun _ => readRow_eq_ok_iff.mpr ⟨h.digits_ne, h.isDigit, h.row, h.row_lt⟩) _ _

/-- An address is written as it was spelled, with capitals and without zeros in front. -/
theorem Spells.chars_eq (h : Spells cs r letters digits) :
    r.chars = sign r.colFixed ++ (letters.map Char.toUpper ++
      (sign r.rowFixed ++ digits.dropWhile (· == '0'))) := by
  have hletters := columnLetters_of_readColumn
    (readColumn_eq_ok_iff.mpr ⟨h.letters_ne, h.letters_le, h.isAlpha, h.column, h.col_lt⟩)
  have hdigits := naturalText_digitsNumber h.isDigit (h.row ▸ Nat.succ_pos _)
  rw [CellRef.chars_eq, hletters, ← h.row, hdigits]

/-- **An address is read exactly where it is spelled**, blanks around it aside, and is written as it
    was spelled, with capitals and without zeros in front of the row; what is written for an address
    of the grid is read back. Columns and their letters determine each other, and are in the same
    order: longer letters behind shorter ones, and by the alphabet where they are as long. -/
theorem read_exact :
    (∀ r : CellRef, r.onGrid = true → read r.text = .ok r) ∧
    (∀ (s : String) r, read s = .ok r ↔
      ∃ letters digits, Spells (Text.trim s.toList) r letters digits) ∧
    (∀ (s : String) r letters digits, Spells (Text.trim s.toList) r letters digits →
      r.text = String.ofList (sign r.colFixed ++ (letters.map Char.toUpper ++
        (sign r.rowFixed ++ digits.dropWhile (· == '0'))))) ∧
    (∀ col < maxColumns, (∀ c ∈ columnLetters col, c.isUpper = true) ∧
      readColumn (columnLetters col) = .ok col) ∧
    (∀ letters col, readColumn letters = .ok col →
      col < maxColumns ∧ columnLetters col = letters.map Char.toUpper ∧
      ((∀ c ∈ letters, c.isUpper = true) → columnLetters col = letters)) ∧
    ∀ a b, List.Shortlex (· < ·) (columnLetters a) (columnLetters b) ↔ a < b := by
  refine ⟨fun r h => ?_, fun s r => ⟨spells_of_readTrimmed, ?_⟩, fun s r letters digits h => ?_,
    fun col h => ⟨fun c hc => ?_, readColumn_columnLetters h⟩, fun letters col h => ?_,
    fun a b => shortlex_columnLetters⟩
  · rw [read, text, String.toList_ofList]
    exact readChars_chars h
  · rintro ⟨letters, digits, h⟩
    exact h.readTrimmed_eq
  · rw [text, h.chars_eq]
  · obtain ⟨k, hk, rfl⟩ := exists_capital_of_mem_columnLetters hc
    exact isUpper_capital hk
  · have hletters := columnLetters_of_readColumn h
    refine ⟨lt_of_readColumn h, hletters, fun hupper => hletters.trans ?_⟩
    exact (List.map_congr_left fun c hc => toUpper_of_isUpper (hupper c hc)).trans (List.map_id' _)

/-- The last column of the grid in mixed letters, and a row with zeros in front of it. -/
theorem read_exact_mixed :
    read " $xfD007 " = .ok ⟨6, 16383, false, true⟩ ∧
    (⟨6, 16383, false, true⟩ : CellRef).text = "$XFD7" ∧
    read "$XFD7" = .ok ⟨6, 16383, false, true⟩ ∧
    readColumn "XFD".toList = .ok 16383 ∧ columnLetters 16383 = "XFD".toList ∧
    List.Shortlex (· < ·) (columnLetters 25) (columnLetters 26) := by
  have hspells : Spells (Text.trim " $xfD007 ".toList) ⟨6, 16383, false, true⟩ "xfD".toList
      "007".toList :=
    ⟨by decide +kernel, by decide, by decide, List.all_eq_true.mp (by decide),
      by decide +kernel, by decide, by decide, List.all_eq_true.mp (by decide),
      by decide +kernel, by decide⟩
  have htext : (⟨6, 16383, false, true⟩ : CellRef).text = "$XFD7" :=
    (read_exact.2.2.1 _ _ _ _ hspells).trans (by decide +kernel)
  have hcolumn : readColumn "XFD".toList = .ok 16383 := by with_unfolding_all rfl
  refine ⟨(read_exact.2.1 _ _).mpr ⟨_, _, hspells⟩, htext, ?_, hcolumn, ?_, ?_⟩
  · rw [← htext]
    exact read_exact.1 _ (by decide)
  · exact (read_exact.2.2.2.2.1 _ _ hcolumn).2.2 (List.all_eq_true.mp (by decide))
  · exact (read_exact.2.2.2.2.2 25 26).mpr (by decide)

end CellRef

end Gridcalc
