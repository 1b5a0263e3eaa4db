import Gridcalc.Address.Reading
import Mathlib.Data.List.DropRight
import Mathlib.Data.List.TakeWhile
import Mathlib.Tactic.IntervalCases

/-!
# Written addresses are read back

* `takeWhile_run`, `dropWhile_run`: a run of characters ends where another character follows;
* `readColumn_columnLetters`, `digitsValue_naturalText`: letters and digits have the value they
  were written for;
* `CellRef.chars_eq`: a written address is letters and digits with their dollar signs;
* `CellRef.readChars_chars`: **every address on the grid is read back**; `looksLikeCell_chars`: it
  has the shape of one;
* `CellRef.onGrid_of_readChars`: only addresses on the grid are read.
-/

namespace Gridcalc

/-! ## 1. Runs -/

section Runs

variable {p : Char → Bool} {run rest : List Char}

theorem takeWhile_run (h : ∀ c ∈ run, p c = true) (hrest : ∀ c ∈ rest.head?, p c = false) :
    (run ++ rest).takeWhile p = run := by
  rw [List.takeWhile_append_of_pos h]
  cases rest with
  | nil => simp
  | cons c cs =>
    have hc : p c = false := hrest c rfl
    simp [hc]

theorem dropWhile_run (h : ∀ c ∈ run, p c = true) (hrest : ∀ c ∈ rest.head?, p c = false) :
    (run ++ rest).dropWhile p = rest := by
  rw [List.dropWhile_append_of_pos h]
  cases rest with
  | nil => rfl
  | cons c cs =>
    have hc : p c = false := hrest c rfl
    simp [hc]

/-- A text is left alone if nothing is to be taken off its ends. -/
theorem strip_eq_self (hfirst : ∀ c ∈ run.head?, p c = false)
    (hlast : ∀ c ∈ run.getLast?, p c = false) : (run.dropWhile p).rdropWhile p = run := by
  have hfront : run.dropWhile p = run := by
    rw [List.dropWhile_eq_self_iff]
    intro hpos hp
    rw [hfirst run[0] (by simp [List.head?_eq_getElem?])] at hp
    cases hp
  rw [hfront, List.rdropWhile_eq_self_iff]
  intro hne hp
  rw [hlast _ (List.getLast?_eq_some_getLast hne)] at hp
  cases hp

end Runs

/-- What holds of the code points of ASCII holds of its characters. -/
theorem forall_ascii {P : Char → Prop} (h : ∀ n < 128, P (Char.ofNat n)) {c : Char}
    (hc : c.toNat < 128) : P c := by
  have hcode := h c.toNat hc
  rwa [Char.ofNat_toNat] at hcode

/-! ## 2. Column letters -/

/-- The letters from A to Z. -/
def capital (k : Nat) : Char := Char.ofNat ('A'.toNat + k)

theorem isAlpha_capital {k : Nat} (h : k < 26) : (capital k).isAlpha = true := by
  interval_cases k <;> decide

theorem utf8Size_capital {k : Nat} (h : k < 26) : (capital k).utf8Size = 1 := by
  interval_cases k <;> decide

theorem value_capital {k : Nat} (h : k < 26) : (capital k).toUpper.toNat - 'A'.toNat = k := by
  interval_cases k <;> decide

theorem lettersBackwards_succ (n : Nat) :
    lettersBackwards (n + 1) = capital (n % 26) :: lettersBackwards (n / 26) := by
  rw [lettersBackwards]
  simp [capital]

theorem lettersBackwards_zero : lettersBackwards 0 = [] := by
  rw [lettersBackwards]
  rfl

/-- The letters of a column are capitals. -/
theorem exists_capital_of_mem {n : Nat} {c : Char} (h : c ∈ lettersBackwards n) :
    ∃ k < 26, c = capital k := by
  induction n using Nat.strongRecOn with
  | ind n ih =>
    cases n with
    | zero =>
      rw [lettersBackwards_zero] at h
      cases h
    | succ n =>
      rw [lettersBackwards_succ] at h
      rcases List.mem_cons.mp h with rfl | h
      · exact ⟨n % 26, Nat.mod_lt _ (by decide), rfl⟩
      · exact ih (n / 26) (by omega) h

theorem lettersValue_append {cs ds : List Char} {n m : Nat} (h : lettersValue n cs = .ok m) :
    lettersValue n (cs ++ ds) = lettersValue m ds := by
  induction cs generalizing n with
  | nil =>
    cases h
    rfl
  | cons c cs ih =>
    rw [lettersValue] at h
    rw [List.cons_append, lettersValue]
    split at h
    · rename_i halpha
      rw [if_pos halpha]
      exact ih h
    · cases h

/-- Letters have the value that they were written for. -/
theorem lettersValue_lettersBackwards (n : Nat) :
    lettersValue 0 (lettersBackwards n).reverse = .ok n := by
  induction n using Nat.strongRecOn with
  | ind n ih =>
    cases n with
    | zero =>
      rw [lettersBackwards_zero]
      rfl
    | succ n =>
      have hlast : n % 26 < 26 := Nat.mod_lt _ (by decide)
      rw [lettersBackwards_succ, List.reverse_cons, lettersValue_append (ih (n / 26) (by omega)),
        lettersValue, if_pos (isAlpha_capital hlast), lettersValue, value_capital hlast]
      congr 1
      omega

/-- A column of the grid has at most three letters. -/
theorem length_lettersBackwards {n : Nat} (h : n ≤ maxColumns) :
    (lettersBackwards n).length ≤ 3 := by
  have hmax : maxColumns = 16384 := rfl
  match n with
  | 0 => simp [lettersBackwards_zero]
  | n + 1 =>
    rw [lettersBackwards_succ]
    match hn : n / 26 with
    | 0 => simp [lettersBackwards_zero]
    | m + 1 =>
      rw [lettersBackwards_succ]
      match hm : m / 26 with
      | 0 => simp [lettersBackwards_zero]
      | k + 1 =>
        have hk : k / 26 = 0 := by omega
        rw [lettersBackwards_succ, hk, lettersBackwards_zero]
        simp

section Letters

variable {col : Nat}

theorem exists_capital_of_mem_columnLetters {c : Char} (h : c ∈ columnLetters col) :
    ∃ k < 26, c = capital k :=
  exists_capital_of_mem (List.mem_reverse.mp h)

theorem isAlpha_columnLetters : ∀ c ∈ columnLetters col, c.isAlpha = true := by
  intro c hc
  obtain ⟨k, hk, rfl⟩ := exists_capital_of_mem_columnLetters hc
  exact isAlpha_capital hk

theorem columnLetters_ne_nil : columnLetters col ≠ [] := by
  simp [columnLetters, lettersBackwards_succ]

/-- Characters of one byte each. -/
theorem byteLength_eq_length {cs : List Char} (h : ∀ c ∈ cs, c.utf8Size = 1) :
    byteLength cs = cs.length := by
  induction cs with
  | nil => rfl
  | cons c cs ih =>
    have hrest := ih fun d hd => h d (List.mem_cons_of_mem _ hd)
    unfold byteLength at hrest ⊢
    rw [List.foldr_cons, hrest, h c List.mem_cons_self, List.length_cons, Nat.add_comm]

theorem byteLength_columnLetters : byteLength (columnLetters col) = (columnLetters col).length := by
  refine byteLength_eq_length fun c hc => ?_
  obtain ⟨k, hk, rfl⟩ := exists_capital_of_mem_columnLetters hc
  exact utf8Size_capital hk

/-- The letters of a column of the grid are read back. -/
theorem readColumn_columnLetters (h : col < maxColumns) :
    readColumn (columnLetters col) = .ok col := by
  have hempty : (columnLetters col).isEmpty = false := by
    rw [List.isEmpty_eq_false_iff]
    exact columnLetters_ne_nil
  have hshort : byteLength (columnLetters col) ≤ 3 := by
    rw [byteLength_columnLetters, columnLetters, List.length_reverse]
    exact length_lettersBackwards h
  have hvalue : lettersValue 0 (columnLetters col) = .ok (col + 1) :=
    lettersValue_lettersBackwards (col + 1)
  unfold readColumn
  rw [hempty, if_neg Bool.false_ne_true, if_neg (Nat.not_lt.mpr hshort), hvalue]
  simp [h]

end Letters

/-! ## 3. Row numbers -/

theorem isDigit_naturalText (n : Nat) : ∀ c ∈ naturalText n, c.isDigit = true := fun _ hc =>
  Nat.isDigit_of_mem_toDigits (by decide) (by decide) hc

theorem naturalText_ne_nil (n : Nat) : naturalText n ≠ [] := Nat.toDigits_ne_nil

/-- Digits have the value that they were written for. -/
theorem digitsValue_naturalText (n : Nat) : digitsValue (naturalText n) = n := by
  have h : Nat.ofDigitChars 10 (Nat.toDigits 10 n) 0 = n := Nat.ofDigitChars_ten_toDigits
  rw [Nat.ofDigitChars_eq_foldl] at h
  simp only [Nat.mul_comm 10] at h
  exact h

/-- The code points of ASCII letters. -/
theorem isAlpha_iff {c : Char} :
    c.isAlpha = true ↔ (65 ≤ c.toNat ∧ c.toNat ≤ 90) ∨ 97 ≤ c.toNat ∧ c.toNat ≤ 122 := by
  have hletter : c.isAlpha = (c.isUpper || c.isLower) := rfl
  have hupper : c.isUpper = decide (c.val ≥ 'A'.val ∧ c.val ≤ 'Z'.val) := rfl
  have hlower : c.isLower = (decide (c.val ≥ 'a'.val) && decide (c.val ≤ 'z'.val)) := rfl
  rw [hletter, hupper, hlower]
  simp only [Bool.or_eq_true, Bool.and_eq_true, decide_eq_true_eq, ge_iff_le,
    UInt32.le_iff_toNat_le]
  rfl

/-- The code points of digits. -/
theorem isDigit_iff {c : Char} : c.isDigit = true ↔ 48 ≤ c.toNat ∧ c.toNat ≤ 57 := by
  simp only [Char.isDigit, Bool.and_eq_true, decide_eq_true_eq, ge_iff_le, UInt32.le_iff_toNat_le]
  rfl

theorem isAlpha_of_isUpper {c : Char} (h : c.isUpper = true) : c.isAlpha = true := by
  show (c.isUpper || c.isLower) = true
  rw [h, Bool.true_or]

/-- No digit is a letter. -/
theorem isAlpha_of_isDigit {c : Char} (h : c.isDigit = true) : c.isAlpha = false := by
  have hdigit := isDigit_iff.mp h
  refine Bool.eq_false_iff.mpr fun hletter => ?_
  have hletter := isAlpha_iff.mp hletter
  omega

/-- Visible characters of ASCII are no blanks. -/
theorem not_isBlank_of_toNat {c : Char} (hlow : 32 < c.toNat) (hhigh : c.toNat < 127) :
    Text.isBlank c = false := by
  simp only [Text.isBlank, Bool.or_eq_false_iff, Bool.and_eq_false_iff, decide_eq_false_iff_not,
    beq_eq_false_iff_ne]
  omega

/-- A text without blanks is not shortened by trimming it. -/
theorem trim_eq_self {cs : List Char} (h : ∀ c ∈ cs, Text.isBlank c = false) :
    Text.trim cs = cs :=
  strip_eq_self (fun c hc => h c (List.mem_of_mem_head? hc))
    fun c hc => h c (List.mem_of_mem_getLast? hc)

/-! ## 4. Addresses -/

namespace CellRef

variable {r : CellRef} {cs : List Char}

/-- The dollar sign of something fixed. -/
def sign (fixed : Bool) : List Char := if fixed then ['$'] else []

theorem takeDollar_sign (fixed : Bool) (h : ∀ c ∈ cs.head?, c ≠ '$') :
    takeDollar (sign fixed ++ cs) = (fixed, cs) := by
  cases fixed with
  | true => rfl
  | false =>
    cases cs with
    | nil => rfl
    | cons c cs =>
      have hc : c ≠ '$' := h c rfl
      unfold takeDollar sign
      split
      · rename_i heq
        simp only [Bool.false_eq_true, if_false, List.nil_append, List.cons.injEq] at heq
        exact absurd heq.1 hc
      · rfl

/-- A written address: column letters and row digits with their dollar signs. -/
theorem chars_eq (r : CellRef) :
    r.chars = sign r.colFixed ++ (columnLetters r.col ++
      (sign r.rowFixed ++ naturalText (r.row + 1))) := by
  simp only [chars, sign, List.append_assoc]

section Parts

variable {letters digits : List Char}

theorem head_letters (hne : letters ≠ []) (h : ∀ c ∈ letters, c.isAlpha = true)
    (rest : List Char) : ∀ c ∈ (letters ++ rest).head?, c ≠ '$' := by
  intro c hc
  obtain ⟨d, ds, rfl⟩ := List.exists_cons_of_ne_nil hne
  rw [List.cons_append, List.head?_cons, Option.mem_some_iff] at hc
  have halpha : d.isAlpha = true := h d List.mem_cons_self
  rintro rfl
  rw [hc] at halpha
  exact absurd halpha (by decide)

theorem head_digits (h : ∀ c ∈ digits, c.isDigit = true) : ∀ c ∈ digits.head?, c ≠ '$' := by
  intro c hc
  have hdigit := h c (List.mem_of_mem_head? hc)
  rintro rfl
  exact absurd hdigit (by decide)

/-- What follows the letters is no letter. -/
theorem head_rowPart (h : ∀ c ∈ digits, c.isDigit = true) (fixed : Bool) :
    ∀ c ∈ (sign fixed ++ digits).head?, c.isAlpha = false := by
  intro c hc
  cases fixed with
  | true =>
    simp only [sign, if_true, List.cons_append, List.head?_cons, Option.mem_some_iff] at hc
    subst hc
    decide
  | false =>
    simp only [sign, Bool.false_eq_true, if_false, List.nil_append] at hc
    exact isAlpha_of_isDigit (h c (List.mem_of_mem_head? hc))

/-- Letters and digits with their dollar signs are read one after the other. -/
theorem readTrimmed_parts {row col : Nat} (hletters : ∀ c ∈ letters, c.isAlpha = true)
    (hne : letters ≠ []) (hdigits : ∀ c ∈ digits, c.isDigit = true)
    (hcol : readColumn letters = .ok col) (hrow : ∀ whole, readRow whole digits = .ok row)
    (rowFixed colFixed : Bool) :
    readTrimmed (sign colFixed ++ (letters ++ (sign rowFixed ++ digits))) =
      .ok { row, col, rowFixed, colFixed } := by
  have hempty : (sign colFixed ++ (letters ++ (sign rowFixed ++ digits))).isEmpty = false := by
    rw [List.isEmpty_eq_false_iff]
    simp [hne]
  have hsome : letters.isEmpty = false := by
    rw [List.isEmpty_eq_false_iff]
    exact hne
  unfold readTrimmed
  rw [hempty, if_neg Bool.false_ne_true, takeDollar_sign _ (head_letters hne hletters _)]
  dsimp only
  rw [takeWhile_run hletters (head_rowPart hdigits _), dropWhile_run hletters
    (head_rowPart hdigits _), hsome, if_neg Bool.false_ne_true, hcol]
  dsimp only
  rw [takeDollar_sign _ (head_digits hdigits)]
  dsimp only
  rw [hrow]

end Parts

/-- A written address has the shape of one. -/
theorem looksLikeCell_chars (r : CellRef) : looksLikeCell r.chars = true := by
  have hdigits := isDigit_naturalText (r.row + 1)
  unfold looksLikeCell
  rw [chars_eq, takeDollar_sign _ (head_letters columnLetters_ne_nil isAlpha_columnLetters _)]
  dsimp only
  rw [dropWhile_run isAlpha_columnLetters (head_rowPart hdigits _),
    takeWhile_run isAlpha_columnLetters (head_rowPart hdigits _),
    takeDollar_sign _ (head_digits hdigits)]
  simp only [Bool.and_eq_true, Bool.not_eq_true', List.isEmpty_eq_false_iff, List.all_eq_true]
  exact ⟨⟨columnLetters_ne_nil, naturalText_ne_nil _⟩, hdigits⟩

/-- A character of a written address: a letter, a digit or a dollar sign. -/
theorem mem_chars {c : Char} (h : c ∈ r.chars) :
    c.isAlpha = true ∨ c.isDigit = true ∨ c = '$' := by
  have hsign : ∀ fixed, c ∈ sign fixed → c = '$' := by
    intro fixed hc
    cases fixed <;> simp_all [sign]
  rw [chars_eq] at h
  simp only [List.mem_append] at h
  rcases h with h | h | h | h
  · exact .inr (.inr (hsign _ h))
  · exact .inl (isAlpha_columnLetters c h)
  · exact .inr (.inr (hsign _ h))
  · exact .inr (.inl (isDigit_naturalText _ c h))

theorem chars_ne_nil (r : CellRef) : r.chars ≠ [] := by
  rw [chars_eq]
  simp [columnLetters_ne_nil]

/-- No character of a written address is blank. -/
theorem not_isBlank_of_mem_chars {c : Char} (h : c ∈ r.chars) : Text.isBlank c = false := by
  rcases mem_chars h with h | h | rfl
  · have hletter := isAlpha_iff.mp h
    exact not_isBlank_of_toNat (by omega) (by omega)
  · have hdigit := isDigit_iff.mp h
    exact not_isBlank_of_toNat (by omega) (by omega)
  · decide

theorem trim_chars (r : CellRef) : Text.trim r.chars = r.chars :=
  trim_eq_self fun _ hc => not_isBlank_of_mem_chars hc

theorem onGrid_iff : r.onGrid = true ↔ r.row < maxRows ∧ r.col < maxColumns := by
  simp [onGrid]

theorem readRow_naturalText {whole : List Char} {row : Nat} (h : row < maxRows) :
    readRow whole (naturalText (row + 1)) = .ok row := by
  have hmax : maxRows < twoTo 32 := by decide
  have hempty : (naturalText (row + 1)).isEmpty = false := by
    rw [List.isEmpty_eq_false_iff]
    exact naturalText_ne_nil _
  have hall : (naturalText (row + 1)).all Char.isDigit = true :=
    List.all_eq_true.mpr (isDigit_naturalText _)
  unfold readRow
  simp only [hempty, hall, digitsValue_naturalText, Bool.not_true, Bool.or_false,
    Bool.false_eq_true, if_false, Nat.add_sub_cancel, h, if_true]
  rw [if_neg (by omega), if_neg (by omega)]

/-- **An address on the grid is read back.** -/
theorem readChars_chars (h : r.onGrid = true) : readChars r.chars = .ok r := by
  obtain ⟨hrow, hcol⟩ := onGrid_iff.mp h
  rw [readChars, trim_chars, chars_eq]
  exact readTrimmed_parts isAlpha_columnLetters columnLetters_ne_nil (isDigit_naturalText _)
    (readColumn_columnLetters hcol) (fun _ => readRow_naturalText hrow) r.rowFixed r.colFixed

theorem lt_of_readColumn {letters : List Char} {col : Nat} (h : readColumn letters = .ok col) :
    col < maxColumns := by
  unfold readColumn at h
  split at h
  · cases h
  split at h
  · cases h
  split at h
  · cases h
  split at h
  · cases h
    assumption
  · cases h

theorem lt_of_readRow {whole digits : List Char} {row : Nat}
    (h : readRow whole digits = .ok row) : row < maxRows := by
  unfold readRow at h
  split at h
  · cases h
  dsimp only at h
  split at h
  · cases h
  split at h
  · cases h
  split at h
  · cases h
    assumption
  · cases h

/-- Only addresses on the grid are read. -/
theorem onGrid_of_readChars (h : readChars cs = .ok r) : r.onGrid = true := by
  unfold readChars readTrimmed at h
  split at h
  · cases h
  dsimp only at h
  split at h
  · cases h
  split at h
  · cases h
  rename_i col hcol
  split at h
  · cases h
  rename_i row hrow
  cases h
  exact onGrid_iff.mpr ⟨lt_of_readRow hrow, lt_of_readColumn hcol⟩

end CellRef

end Gridcalc
