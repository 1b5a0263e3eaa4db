import Gridcalc.Formula.CallHint
import Gridcalc.Proofs.Formula.Following
import Gridcalc.Proofs.Formula.OpenCalls
import Gridcalc.Proofs.Formula.SheetNames

/-!
# Scanning a token for calls

What the scan for the calls around a caret makes of one token of a formula. Outside of quotes only
parentheses and commas change what is open, and every quote that a token opens it closes again.

* `CaretState.outside`: the states outside of quotes;
* `CaretState.foldl_name`: behind a name stands the part of it behind the last dollar sign;
* `CaretState.Passes`: characters that leave open what was open;
* `ReadsAs.passes`: **a token passes unless it is a text, a parenthesis or a comma**;
* `CaretState.foldl_text`: so does a text if it ends.
-/

namespace Gridcalc

namespace CaretState

/-! ## 1. Single characters -/

/-- The state outside of texts and sheet names. -/
def outside (frames : List (Option CallHint)) (word : List Char) : CaretState := { frames, word }

/-- A character that goes on with a word. -/
def isWordChar (c : Char) : Bool := Text.isLetterOrNumber c || c == '_' || c == '.'

/-- A character that opens and closes nothing and separates no arguments. -/
def isInert (c : Char) : Bool := !(['"', '\'', '(', ')', ','].contains c)

section Characters

variable {c : Char} {cs : List Char} {frames : List (Option CallHint)} {word : List Char}

theorem isInert_of_ne (h : c ≠ '"' ∧ c ≠ '\'' ∧ c ≠ '(' ∧ c ≠ ')' ∧ c ≠ ',') :
    isInert c = true := by
  simp [isInert, h]

theorem isInert_of_isNameChar (h : isNameChar c = true) : isInert c = true := by
  refine isInert_of_ne ⟨?_, ?_, ?_, ?_, ?_⟩ <;>
  · intro heq
    subst heq
    exact absurd h (by decide)

theorem isInert_of_isBlank (h : Text.isBlank c = true) : isInert c = true := by
  refine isInert_of_ne ⟨?_, ?_, ?_, ?_, ?_⟩ <;>
  · intro heq
    subst heq
    exact absurd h (by decide)

theorem step_inert (h : isInert c = true) :
    (outside frames word).step c = outside frames (if isWordChar c then c :: word else []) := by
  have hne : c ≠ '"' ∧ c ≠ '\'' ∧ c ≠ '(' ∧ c ≠ ')' ∧ c ≠ ',' := by
    simpa [isInert] using h
  obtain ⟨h₁, h₂, h₃, h₄, h₅⟩ := hne
  cases hword : isWordChar c <;>
  · rw [isWordChar] at hword
    simp [step, outside, h₁, h₂, h₃, h₄, h₅, hword]

theorem isWordChar_of_isNameChar (h : isNameChar c = true) (hc : c ≠ '$') :
    isWordChar c = true := by
  simpa [isNameChar, isWordChar, hc] using h

theorem isNameChar_of_isWordChar (h : isWordChar c = true) : isNameChar c = true := by
  simp only [isWordChar, Bool.or_eq_true] at h
  simp only [isNameChar, Bool.or_eq_true]
  tauto

/-- Behind the characters of a name stand those behind the last dollar sign. -/
theorem foldl_name (h : ∀ c ∈ cs, isNameChar c = true) (hword : '$' ∉ word) :
    cs.foldl step (outside frames word) =
      outside frames ((cs.reverse ++ word).takeWhile (· ≠ '$')) := by
  induction cs generalizing word with
  | nil =>
    have hall : word.takeWhile (· ≠ '$') = word := by
      refine List.takeWhile_eq_self_iff.mpr fun c hc => ?_
      rw [decide_eq_true_eq]
      intro heq
      subst heq
      exact hword hc
    rw [List.reverse_nil, List.nil_append, hall, List.foldl_nil]
  | cons c cs ih =>
    obtain ⟨hc, hcs⟩ := List.forall_mem_cons.mp h
    rw [List.foldl_cons, step_inert (isInert_of_isNameChar hc), List.reverse_cons,
      List.append_assoc, List.singleton_append]
    by_cases hdollar : c = '$'
    · subst hdollar
      have hclear : isWordChar '$' = false := by decide
      rw [hclear, if_neg Bool.false_ne_true, ih hcs List.not_mem_nil, List.append_nil,
        takeWhile_append_of_head]
      intro d hd
      cases hd
      decide
    · rw [if_pos (isWordChar_of_isNameChar hc hdollar)]
      refine ih hcs fun hmem => ?_
      rcases List.mem_cons.mp hmem with heq | hmem
      · exact hdollar heq.symm
      · exact hword hmem

/-- Blanks end a word. -/
theorem foldl_blank (h : AllBlank cs) :
    cs.foldl step (outside frames word) = outside frames (if cs = [] then word else []) := by
  induction cs generalizing word with
  | nil => rfl
  | cons c cs ih =>
    obtain ⟨hc, hcs⟩ := List.forall_mem_cons.mp h
    have hclear : isWordChar c = false := by
      refine Bool.eq_false_iff.mpr fun hw => ?_
      rw [not_isBlank_of_isNameChar (isNameChar_of_isWordChar hw)] at hc
      cases hc
    rw [List.foldl_cons, step_inert (isInert_of_isBlank hc), hclear, if_neg Bool.false_ne_true,
      ih hcs, ite_self, if_neg (List.cons_ne_nil c cs)]

end Characters

/-! ## 2. Characters that leave open what was open -/

/-- Characters behind which the same is open, and also in the middle of them. -/
structure Passes (cs : List Char) : Prop where
  whole : ∀ frames word, ∃ word', cs.foldl step (outside frames word) = outside frames word'
  part : ∀ frames word n, ((cs.take n).foldl step (outside frames word)).frames = frames ∧
    ((cs.take n).foldl step (outside frames word)).inText = false

section Passes

variable {c : Char} {cs cs' name tail : List Char} {n : Nat}

theorem exists_word_inert (h : ∀ c ∈ cs, isInert c = true) (frames : List (Option CallHint))
    (word : List Char) : ∃ word', cs.foldl step (outside frames word) = outside frames word' := by
  induction cs generalizing word with
  | nil => exact ⟨word, rfl⟩
  | cons c cs ih =>
    obtain ⟨hc, hcs⟩ := List.forall_mem_cons.mp h
    rw [List.foldl_cons, step_inert hc]
    exact ih hcs _

theorem Passes.inert (h : ∀ c ∈ cs, isInert c = true) : Passes cs := by
  refine ⟨exists_word_inert h, fun frames word n => ?_⟩
  obtain ⟨word', hword⟩ :=
    exists_word_inert (fun c hc => h c (List.mem_of_mem_take hc)) frames word
  rw [hword]
  exact ⟨rfl, rfl⟩

theorem Passes.append (h : Passes cs) (h' : Passes cs') : Passes (cs ++ cs') := by
  refine ⟨fun frames word => ?_, fun frames word n => ?_⟩
  · obtain ⟨word', hword⟩ := h.whole frames word
    rw [List.foldl_append, hword]
    exact h'.whole frames word'
  · rw [List.take_append]
    rcases Nat.le_total n cs.length with hn | hn
    · rw [Nat.sub_eq_zero_of_le hn, List.take_zero, List.append_nil]
      exact h.part frames word n
    · obtain ⟨word', hword⟩ := h.whole frames word
      rw [List.take_of_length_le hn, List.foldl_append, hword]
      exact h'.part frames word' _

/-- Inside the name of a sheet nothing opens or closes. -/
theorem foldl_sheetName (h : readQuotedSheet? cs = some (name, n))
    (frames : List (Option CallHint)) :
    (cs.take n).foldl step ⟨frames, [], false, true⟩ = outside frames [] ∧
      ∀ m, (((cs.take n).take m).foldl step ⟨frames, [], false, true⟩).frames = frames ∧
        (((cs.take n).take m).foldl step ⟨frames, [], false, true⟩).inText = false := by
  induction cs using readQuotedSheet?.induct generalizing name n with
  | case1 => cases h
  | case2 cs ih =>
    rw [readQuotedSheet?_double] at h
    obtain ⟨⟨name', n'⟩, h', e⟩ := Option.map_eq_some_iff.mp h
    cases e
    obtain ⟨hwhole, hpart⟩ := ih h'
    refine ⟨hwhole, fun m => ?_⟩
    cases m with
    | zero => exact ⟨rfl, rfl⟩
    | succ m =>
      cases m with
      | zero => exact ⟨rfl, rfl⟩
      | succ m => exact hpart m
  | case3 cs hquotes =>
    have hclose : readQuotedSheet? ('\'' :: cs) = some ([], 1) := by
      refine readQuotedSheet?_close fun d hd heq => ?_
      obtain ⟨rest, hrest⟩ := List.head?_eq_some_iff.mp hd
      exact hquotes rest rfl (heq ▸ hrest)
    rw [hclose] at h
    cases h
    refine ⟨rfl, fun m => ?_⟩
    cases m with
    | zero => exact ⟨rfl, rfl⟩
    | succ m =>
      rw [List.take_succ_cons, List.take_zero, List.take_succ_cons, List.take_nil]
      exact ⟨rfl, rfl⟩
  | case4 c cs hquotes hquote ih =>
    rw [readQuotedSheet?_cons hquote] at h
    obtain ⟨⟨name', n'⟩, h', e⟩ := Option.map_eq_some_iff.mp h
    cases e
    obtain ⟨hwhole, hpart⟩ := ih h'
    have hstep : step ⟨frames, [], false, true⟩ c = ⟨frames, [], false, true⟩ := by
      simp [step, hquote]
    refine ⟨by rw [List.take_succ_cons, List.foldl_cons, hstep, hwhole], fun m => ?_⟩
    cases m with
    | zero => exact ⟨rfl, rfl⟩
    | succ m =>
      rw [List.take_succ_cons, List.take_succ_cons, List.foldl_cons, hstep]
      exact hpart m

theorem Passes.sheetName (h : readQuotedSheet? cs = some (name, n)) :
    Passes ('\'' :: cs.take n) := by
  refine ⟨fun frames word => ⟨[], (foldl_sheetName h frames).1⟩, fun frames word m => ?_⟩
  cases m with
  | zero => exact ⟨rfl, rfl⟩
  | succ m => exact (foldl_sheetName h frames).2 m

/-- A text leaves open what was open. Only at the end of a formula it may not be closed. -/
theorem foldl_text (h : (readQuoted (cs ++ tail)).2 = cs.length)
    (frames : List (Option CallHint)) (word : List Char) :
    ∃ inside, ('"' :: cs).foldl step (outside frames word) = ⟨frames, [], inside, false⟩ ∧
      (inside = true → tail = []) := by
  have hstart : (outside frames word).step '"' = ⟨frames, [], true, false⟩ := rfl
  rw [List.foldl_cons, hstart]
  clear hstart
  induction cs using readQuoted.induct with
  | case1 =>
    refine ⟨true, rfl, fun _ => ?_⟩
    cases tail with
    | nil => rfl
    | cons c tail => exact absurd h (Nat.pos_iff_ne_zero.mp (readQuoted_pos c tail))
  | case2 cs s n hs ih =>
    simp only [List.cons_append, readQuoted_double, List.length_cons, Nat.add_right_cancel_iff,
      Nat.add_assoc] at h
    exact ih h
  | case3 cs hquotes =>
    cases cs with
    | nil => exact ⟨false, rfl, fun h => absurd h Bool.false_ne_true⟩
    | cons e cs =>
      have hclose : readQuoted ('"' :: (e :: cs ++ tail)) = ([], 1) := by
        refine readQuoted_close fun d hd => ?_
        intro heq
        subst heq
        cases hd
        exact hquotes cs rfl rfl
      rw [List.cons_append, hclose, List.length_cons, List.length_cons] at h
      omega
  | case4 c cs hquotes hquote s n hs ih =>
    rw [List.cons_append, readQuoted_cons hquote] at h
    have hstep : step ⟨frames, [], true, false⟩ c = ⟨frames, [], true, false⟩ := by
      simp [step, hquote]
    rw [List.foldl_cons, hstep]
    exact ih (Nat.add_right_cancel h)

end Passes

end CaretState

/-! ## 3. Tokens -/

open CaretState

section Tokens

variable {c : Char} {cs source tail m : List Char} {k : TokenKind} {sheet : List Char} {n : Nat}

theorem take_length_takeWhile (p : Char → Bool) (cs : List Char) :
    cs.take (cs.takeWhile p).length = cs.takeWhile p :=
  (List.prefix_iff_eq_take.mp (List.takeWhile_prefix p)).symm

theorem isInert_of_mem_digits {d : Char} (h : d ∈ cs.takeWhile Char.isDigit) : isInert d = true :=
  isInert_of_isNameChar (isNameChar_of_isDigit (List.mem_takeWhile_imp h))

/-- Behind the name of a sheet stand an exclamation mark and an address. -/
theorem take_readQualified {rest : List Char} (hdrop : cs.drop n = '!' :: rest) (c : Char)
    (sheet : List Char) : ∃ more, cs.take (readQualified c cs sheet (n + 1)).2 = cs.take n ++ more ∧
      ∀ d ∈ more, isInert d = true := by
  obtain ⟨-, -, hrest⟩ := eq_append_of_drop hdrop
  have hlen : (readQualified c cs sheet (n + 1)).2 =
      n + (1 + (rest.takeWhile isAddressChar).length) := by
    unfold readQualified
    rw [hrest, ← Nat.add_assoc]
    dsimp only
    split
    · split <;> rfl
    · rfl
  refine ⟨'!' :: rest.takeWhile isAddressChar, ?_, ?_⟩
  · rw [hlen, List.take_add, hdrop, Nat.add_comm 1, List.take_succ_cons, take_length_takeWhile]
  · rw [List.forall_mem_cons]
    exact ⟨by decide, fun d hd =>
      isInert_of_isNameChar (isNameChar_of_isAddressChar (List.mem_takeWhile_imp hd))⟩

theorem passes_readSheetToken (h : ∀ s, (readSheetToken cs).1 ≠ .unknown s) :
    Passes ('\'' :: cs.take (readSheetToken cs).2) := by
  obtain ⟨sheet, n, rest, hsheet, hdrop⟩ := exists_of_readSheetToken h
  obtain ⟨more, htake, hmore⟩ := take_readQualified hdrop '\'' sheet
  rw [readSheetToken_eq hsheet hdrop, htake, ← List.cons_append]
  exact (Passes.sheetName hsheet).append (.inert hmore)

theorem isInert_of_mem_name (c : Char) {d : Char} (h : d ∈ cs.take (readNameToken c cs).2) :
    isInert d = true := by
  have hname : ∀ d ∈ cs.take (cs.takeWhile isNameChar).length, isInert d = true := by
    intro d hd
    rw [take_length_takeWhile] at hd
    exact isInert_of_isNameChar (List.mem_takeWhile_imp hd)
  unfold readNameToken at h
  dsimp only at h
  split at h
  · rename_i rest hdrop
    obtain ⟨more, htake, hmore⟩ := take_readQualified hdrop c (c :: cs.takeWhile isNameChar)
    rw [htake] at h
    exact (List.mem_append.mp h).elim (hname d) (hmore d)
  · exact hname d h
  · split at h
    · split at h <;> exact hname d h
    · exact hname d h

theorem isInert_of_mem_error {d : Char} (h : d ∈ cs.take (errorLength cs)) : isInert d = true := by
  induction cs with
  | nil => cases h
  | cons c cs ih =>
    unfold errorLength at h
    split at h
    · rename_i hend
      rw [List.take_succ_cons, List.take_zero] at h
      cases List.mem_singleton.mp h
      rcases hend with rfl | rfl <;> decide
    · split at h
      · rename_i hgo
        rcases List.mem_cons.mp h with rfl | h
        · rcases Bool.or_eq_true_iff.mp hgo with hgo | hgo
          · refine isInert_of_isNameChar (isNameChar_of_isAddressChar ?_)
            rw [isAddressChar, hgo, Bool.true_or]
          · cases eq_of_beq hgo
            decide
        · exact ih h
      · cases h

theorem isInert_of_mem_exponent {d : Char} (h : d ∈ cs.take (exponentLength cs)) :
    isInert d = true := by
  cases cs with
  | nil => cases h
  | cons e cs =>
    have hsigned : ∀ signs, (∀ d ∈ cs.take signs, isInert d = true) → (e = 'e' ∨ e = 'E') →
        d ∈ (e :: cs).take (1 + signs + ((cs.drop signs).takeWhile Char.isDigit).length) →
        isInert d = true := by
      intro signs hsigns he h
      rw [Nat.add_assoc, Nat.add_comm 1, List.take_succ_cons, List.take_add,
        take_length_takeWhile] at h
      rcases List.mem_cons.mp h with rfl | h
      · rcases he with rfl | rfl <;> decide
      · exact (List.mem_append.mp h).elim (hsigns d) isInert_of_mem_digits
    unfold exponentLength at h
    dsimp only at h
    split at h
    all_goals
      split at h
      · rename_i hexponent
        refine hsigned _ ?_ hexponent.1 h
        simp
        try decide
      · cases h

theorem isInert_of_mem_number {d : Char} (h : d ∈ cs.take (numberLength cs)) :
    isInert d = true := by
  rw [numberLength_eq] at h
  dsimp only at h
  rw [List.take_add, List.take_add, take_length_takeWhile] at h
  rcases List.mem_append.mp h with h | h
  · rcases List.mem_append.mp h with h | h
    · exact isInert_of_mem_digits h
    · split at h
      · rename_i hpoint
        obtain ⟨rest, hrest⟩ := List.head?_eq_some_iff.mp hpoint
        rw [hrest, Nat.add_comm 1, List.take_succ_cons, List.tail_cons, take_length_takeWhile] at h
        rcases List.mem_cons.mp h with rfl | h
        · decide
        · exact isInert_of_mem_digits h
      · cases h
  · exact isInert_of_mem_exponent h

theorem isInert_of_startsNumber (h : startsNumber c cs = true) : isInert c = true := by
  simp only [startsNumber, Bool.or_eq_true, Bool.and_eq_true, beq_iff_eq] at h
  rcases h with hdigit | ⟨rfl, -⟩
  · exact isInert_of_isNameChar (isNameChar_of_isDigit hdigit)
  · decide

theorem isNameChar_of_startsName (h : startsName c = true) : isNameChar c = true := by
  simp only [startsName, Bool.or_eq_true] at h
  simp only [isNameChar, Text.isLetterOrNumber, Bool.or_eq_true]
  tauto

theorem isInert_of_mem_numberToken {d : Char} (h : d ∈ cs.take (readNumberToken c cs).2) :
    isInert d = true := by
  have hlen : (readNumberToken c cs).2 = numberLength (c :: cs) - 1 := by
    unfold readNumberToken
    dsimp only
    split <;> rfl
  rw [hlen] at h
  have hmem : d ∈ (c :: cs).take (numberLength (c :: cs)) := by
    cases hnumber : numberLength (c :: cs) with
    | zero =>
      rw [hnumber] at h
      cases h
    | succ n =>
      rw [hnumber, Nat.add_sub_cancel] at h
      exact List.mem_cons_of_mem _ h
  exact isInert_of_mem_number hmem

theorem TokenKind.isInner_of_isWord (h : k.isWord = true) : k.isInner = true := by
  cases k <;> first | rfl | cases h

/-- A mark ends a word. -/
theorem foldl_mark (hm : k.mark? = some m) (hk : k.isInner = true)
    (frames : List (Option CallHint)) (word : List Char) :
    m.foldl CaretState.step (outside frames word) = outside frames [] := by
  cases k <;> cases hm <;> first | rfl | cases hk

/-- **A token leaves open what was open**, unless it is a text, a parenthesis or a comma. -/
theorem ReadsAs.passes (h : ReadsAs k source tail) (hk : k.isInner = true)
    (hknown : k.isWord = true ∨ ∃ m, k.mark? = some m) (htext : ∀ s, k ≠ .text s) :
    Passes source := by
  rcases hknown with hword | ⟨m, hm⟩
  · obtain ⟨c, cs, rfl, -, hread⟩ := h
    have hlen : (readToken c (cs ++ tail)).2 = cs.length := by rw [hread]
    have hcs : cs = (cs ++ tail).take cs.length := List.take_left.symm
    have hkind : (readToken c (cs ++ tail)).1 = k := by rw [hread]
    rw [← hkind] at hword htext
    rw [← hlen] at hcs
    rw [hcs]
    generalize cs ++ tail = rest at *
    rcases exists_of_isWord hword with rfl | rfl | rfl | hnumber | hname
    · exact absurd rfl (htext _)
    · rw [readToken_error, readErrorToken_snd]
      exact .inert (List.forall_mem_cons.mpr ⟨by decide, fun _ => isInert_of_mem_error⟩)
    · rw [readToken_sheet] at hword ⊢
      refine passes_readSheetToken fun s hs => ?_
      rw [hs] at hword
      cases hword
    · rw [readToken_number hnumber]
      refine .inert (List.forall_mem_cons.mpr ⟨isInert_of_startsNumber hnumber, fun d hd => ?_⟩)
      exact isInert_of_mem_numberToken hd
    · rw [readToken_name hname]
      have hc : isInert c = true := isInert_of_isNameChar (isNameChar_of_startsName hname)
      exact .inert (List.forall_mem_cons.mpr ⟨hc, fun _ => isInert_of_mem_name c⟩)
  · rw [h.source_eq hm]
    have hall : m.all isInert = true := by
      cases k <;> cases hm <;> first | rfl | cases hk
    exact .inert (List.all_eq_true.mp hall)

theorem readQualified_ne (c : Char) (cs sheet : List Char) (n : Nat) :
    (∀ s, (readQualified c cs sheet n).1 ≠ .text s) ∧
      ∀ s, (readQualified c cs sheet n).1 ≠ .name s := by
  unfold readQualified
  dsimp only
  split
  · split <;> exact ⟨nofun, nofun⟩
  · exact ⟨nofun, nofun⟩

theorem readNameToken_ne_text (c : Char) (cs : List Char) (s : String) :
    (readNameToken c cs).1 ≠ .text s := by
  unfold readNameToken
  dsimp only
  split
  · exact (readQualified_ne _ _ _ _).1 s
  · nofun
  · split
    · split <;> nofun
    · nofun

theorem readNameToken_eq_name {s : String} (h : readNameToken c cs = (.name s, n)) :
    s = String.ofList (c :: cs.takeWhile isNameChar) ∧ n = (cs.takeWhile isNameChar).length := by
  unfold readNameToken at h
  dsimp only at h
  split at h
  · exact absurd (congrArg Prod.fst h) ((readQualified_ne _ _ _ _).2 s)
  · cases h
    exact ⟨rfl, rfl⟩
  · split at h
    · split at h
      · cases h
      · cases h
        exact ⟨rfl, rfl⟩
    · cases h
      exact ⟨rfl, rfl⟩

/-- What texts and names start with. -/
theorem head_of_readToken (c : Char) (cs : List Char) :
    (∀ s, (readToken c cs).1 = .text s → c = '"') ∧
      ∀ s, (readToken c cs).1 = .name s → startsName c = true := by
  by_cases hword : (readToken c cs).1.isWord = true
  · rcases exists_of_isWord hword with rfl | rfl | rfl | hnumber | hname
    · exact ⟨fun _ _ => rfl, nofun⟩
    · rw [readToken_error]
      unfold readErrorToken
      dsimp only
      split <;> exact ⟨nofun, nofun⟩
    · rw [readToken_sheet]
      unfold readSheetToken
      split
      · exact ⟨nofun, nofun⟩
      · split
        · exact ⟨fun s hs => absurd hs ((readQualified_ne _ _ _ _).1 s),
            fun s hs => absurd hs ((readQualified_ne _ _ _ _).2 s)⟩
        · exact ⟨nofun, nofun⟩
    · rw [readToken_number hnumber]
      unfold readNumberToken
      dsimp only
      split <;> exact ⟨nofun, nofun⟩
    · refine ⟨fun s hs => ?_, fun _ _ => hname⟩
      rw [readToken_name hname] at hs
      exact absurd hs (readNameToken_ne_text c cs s)
  · exact ⟨fun s hs => absurd (hs ▸ rfl) hword, fun s hs => absurd (hs ▸ rfl) hword⟩

/-- The characters of a text. -/
theorem ReadsAs.text_source {s : String} (h : ReadsAs (.text s) source tail) :
    ∃ cs, source = '"' :: cs ∧ (readQuoted (cs ++ tail)).2 = cs.length := by
  obtain ⟨c, cs, rfl, -, hread⟩ := h
  obtain rfl := (head_of_readToken c (cs ++ tail)).1 s (congrArg Prod.fst hread)
  exact ⟨cs, rfl, congrArg Prod.snd hread⟩

/-- The characters of a name. -/
theorem ReadsAs.name_source {s : String} (h : ReadsAs (.name s) source tail) :
    s = String.ofList source ∧ (∀ c ∈ source.head?, startsName c = true) ∧
      ∀ c ∈ source, isNameChar c = true := by
  obtain ⟨c, cs, rfl, -, hread⟩ := h
  have hstarts := (head_of_readToken c (cs ++ tail)).2 s (congrArg Prod.fst hread)
  rw [readToken_name hstarts] at hread
  obtain ⟨hs, hlen⟩ := readNameToken_eq_name hread
  have hcs : cs = (cs ++ tail).takeWhile isNameChar := by
    rw [← take_length_takeWhile, ← hlen, List.take_left]
  rw [← hcs] at hs
  refine ⟨hs, ?_, ?_⟩
  · intro d hd
    cases hd
    exact hstarts
  · refine List.forall_mem_cons.mpr ⟨isNameChar_of_startsName hstarts, fun d hd => ?_⟩
    rw [hcs] at hd
    exact List.mem_takeWhile_imp hd

end Tokens

end Gridcalc
