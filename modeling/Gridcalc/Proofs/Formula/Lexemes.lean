import Gridcalc.Formula.Scan
import Gridcalc.Proofs.Address.Spelling

/-!
# Texts and their tokens

* `ReadsAs`: some characters are one token in front of a tail;
* `Lexed`: a text is cut into tokens of some kinds; `Spelled`: it is cut into these tokens;
* `lexed_iff`, `spelled_scan`: what scanning makes of a text.
-/

namespace Gridcalc

/-! ## 1. Lengths -/

section Lengths

variable {c : Char} {cs : List Char}

theorem length_readQuoted_le (cs : List Char) : (readQuoted cs).2 ≤ cs.length := by
  fun_induction readQuoted cs <;> simp_all

theorem errorLength_le (cs : List Char) : errorLength cs ≤ cs.length := by
  fun_induction errorLength cs <;> simp_all

theorem length_readQuotedSheet?_le {name : List Char} {n : Nat}
    (h : readQuotedSheet? cs = some (name, n)) : n ≤ cs.length := by
  fun_induction readQuotedSheet? cs generalizing name n with
  | case1 => cases h
  | case2 cs ih =>
    obtain ⟨⟨name', n'⟩, h', e⟩ := Option.map_eq_some_iff.mp h
    cases e
    have := ih h'
    simp only [List.length_cons]
    omega
  | case3 cs hquotes =>
    cases h
    simp
  | case4 c cs hquotes hquote ih =>
    obtain ⟨⟨name', n'⟩, h', e⟩ := Option.map_eq_some_iff.mp h
    cases e
    have := ih h'
    simp only [List.length_cons]
    omega

theorem exponentLength_le (cs : List Char) : exponentLength cs ≤ cs.length := by
  cases cs with
  | nil => exact Nat.le_refl _
  | cons e cs =>
    have hsome : ∀ signs, (cs.drop signs).takeWhile Char.isDigit ≠ [] →
        1 + signs + ((cs.drop signs).takeWhile Char.isDigit).length ≤ cs.length + 1 := by
      intro signs hdigits
      have hlen := ((cs.drop signs).takeWhile_sublist Char.isDigit).length_le
      have hpos := List.length_pos_iff.mpr hdigits
      rw [List.length_drop] at hlen
      omega
    unfold exponentLength
    dsimp only
    split
    all_goals
      split
      · rename_i hdigits
        exact hsome _ hdigits.2
      · exact Nat.zero_le _

theorem numberLength_le (cs : List Char) : numberLength cs ≤ cs.length := by
  have hexponent : ∀ n ≤ cs.length, n + exponentLength (cs.drop n) ≤ cs.length := by
    intro n hn
    have h := exponentLength_le (cs.drop n)
    rw [List.length_drop] at h
    omega
  have hwhole := (cs.takeWhile_sublist Char.isDigit).length_le
  refine hexponent _ ?_
  split
  · rename_i rest hrest
    have hlen := congrArg List.length hrest
    have hfraction := (rest.takeWhile_sublist Char.isDigit).length_le
    rw [List.length_drop, List.length_cons] at hlen
    show _ + (1 + (rest.takeWhile Char.isDigit).length) ≤ _
    omega
  · exact hwhole

theorem length_readQualified_le {sheet : List Char} {n : Nat} (h : n ≤ cs.length) :
    (readQualified c cs sheet n).2 ≤ cs.length := by
  have hlen := ((cs.drop n).takeWhile_sublist isAddressChar).length_le
  rw [List.length_drop] at hlen
  unfold readQualified
  dsimp only
  split
  · split <;> exact Nat.add_le_of_le_sub' h hlen
  · exact Nat.add_le_of_le_sub' h hlen

theorem lt_length_of_drop {n : Nat} {d : Char} {rest : List Char} (h : cs.drop n = d :: rest) :
    n < cs.length := by
  have hlen := congrArg List.length h
  rw [List.length_drop, List.length_cons] at hlen
  omega

theorem length_readSheetToken_le (cs : List Char) : (readSheetToken cs).2 ≤ cs.length := by
  unfold readSheetToken
  split
  · exact Nat.le_refl _
  · rename_i sheet n hsheet
    split
    · rename_i hdrop
      exact length_readQualified_le (lt_length_of_drop hdrop)
    · exact length_readQuotedSheet?_le hsheet

theorem length_readNameToken_le (c : Char) (cs : List Char) :
    (readNameToken c cs).2 ≤ cs.length := by
  have hlen := (cs.takeWhile_sublist isNameChar).length_le
  unfold readNameToken
  dsimp only
  split
  · rename_i hdrop
    exact length_readQualified_le (lt_length_of_drop hdrop)
  · exact hlen
  · split
    · split <;> exact hlen
    · exact hlen

theorem length_readErrorToken_le (cs : List Char) : (readErrorToken cs).2 ≤ cs.length := by
  unfold readErrorToken
  dsimp only
  split <;> exact errorLength_le cs

theorem length_readNumberToken_le (c : Char) (cs : List Char) :
    (readNumberToken c cs).2 ≤ cs.length := by
  have hlen := numberLength_le (c :: cs)
  rw [List.length_cons] at hlen
  unfold readNumberToken
  dsimp only
  split <;> exact Nat.sub_le_iff_le_add.mpr hlen

/-- A token is no longer than the text. -/
theorem length_readToken_le (c : Char) (cs : List Char) : (readToken c cs).2 ≤ cs.length := by
  unfold readToken
  split
  case h_16 => exact length_readQuoted_le _
  case h_17 => exact length_readErrorToken_le _
  case h_18 => exact length_readSheetToken_le _
  case h_19 =>
    split
    · exact length_readNumberToken_le _ _
    · split
      · exact length_readNameToken_le _ _
      · exact Nat.zero_le _
  all_goals first
    | exact Nat.zero_le _
    | exact Nat.succ_le_succ (Nat.zero_le _)

end Lengths

/-! ## 2. Texts cut into tokens -/

/-- Nothing but blanks. -/
def AllBlank (cs : List Char) : Prop := ∀ c ∈ cs, Text.isBlank c = true

theorem allBlank_nil : AllBlank [] := fun _ h => absurd h List.not_mem_nil

/-- The characters `source` are read as one token in front of `tail`. -/
def ReadsAs (k : TokenKind) (source tail : List Char) : Prop :=
  ∃ c cs, source = c :: cs ∧ Text.isBlank c = false ∧ readToken c (cs ++ tail) = (k, cs.length)

/-- A text that is cut into tokens of some kinds. -/
inductive Lexed : List Char → List TokenKind → Prop
  | finish {gap : List Char} (hgap : AllBlank gap) : Lexed gap []
  | token {gap source rest : List Char} {k : TokenKind} {ks : List TokenKind}
      (hgap : AllBlank gap) (hsource : ReadsAs k source rest) (hrest : Lexed rest ks) :
      Lexed (gap ++ (source ++ rest)) (k :: ks)

/-- The tokens that a text is cut into, which ends with the blanks `fin`. -/
inductive Spelled (fin : List Char) : List Token → Prop
  | nil (hfin : AllBlank fin) : Spelled fin []
  | cons {t : Token} {ts : List Token} (hgap : AllBlank t.gap)
      (hsource : ReadsAs t.kind t.source (ts.flatMap Token.chars ++ fin)) (hrest : Spelled fin ts) :
      Spelled fin (t :: ts)

/-- The kinds of the tokens of a text. -/
def kindsOf (cs : List Char) : List TokenKind := (scan cs).1.map Token.kind

section Scanning

variable {fin cs : List Char} {ts : List Token} {ks : List TokenKind}

theorem ReadsAs.ne_nil {k : TokenKind} {source tail : List Char} (h : ReadsAs k source tail) :
    source ≠ [] := by
  obtain ⟨c, cs, rfl, -⟩ := h
  exact List.cons_ne_nil c cs

theorem allBlank_takeWhile (cs : List Char) : AllBlank (cs.takeWhile Text.isBlank) :=
  fun _ hc => List.mem_takeWhile_imp hc

/-- Scanning cuts every text. -/
theorem spelled_scanFrom (offset : Nat) (cs : List Char) :
    Spelled (scanFrom offset cs).2.chars (scanFrom offset cs).1 ∧
      (scanFrom offset cs).2.kind = .finish := by
  fun_induction scanFrom offset cs with
  | case1 offset cs gap start h =>
    refine ⟨.nil ?_, rfl⟩
    rw [Token.chars, List.append_nil]
    exact allBlank_takeWhile cs
  | case2 offset cs gap start c rest h n token tokens finish hs ih =>
    have hrest := chars_scanFrom token.stop (rest.drop n)
    rw [hs] at ih hrest
    refine ⟨.cons (allBlank_takeWhile cs) ⟨c, rest.take n, rfl, ?_, ?_⟩ ih.1, ih.2⟩
    · have hhead := List.head?_dropWhile_not Text.isBlank cs
      rw [h] at hhead
      exact hhead
    · rw [hrest, List.take_append_drop,
        List.length_take_of_le (length_readToken_le c rest)]

theorem spelled_scan (cs : List Char) : Spelled (scan cs).2.chars (scan cs).1 :=
  (spelled_scanFrom 0 cs).1

/-- The mark of the end comes behind all tokens. -/
theorem kinds_tokenize (formula : String) :
    (tokenize formula).map Token.kind = kindsOf formula.toList ++ [.finish] := by
  have hfinish : (scan formula.toList).2.kind = .finish := (spelled_scanFrom 0 _).2
  rw [tokenize, List.map_append, List.map_singleton, hfinish, kindsOf]

theorem Spelled.lexed (h : Spelled fin ts) :
    Lexed (ts.flatMap Token.chars ++ fin) (ts.map Token.kind) := by
  induction h with
  | nil hfin => exact .finish hfin
  | cons hgap hsource hrest ih =>
    rw [List.flatMap_cons, Token.chars, List.append_assoc, List.append_assoc]
    exact .token hgap hsource ih

theorem lexed_kindsOf (cs : List Char) : Lexed cs (kindsOf cs) := by
  have h := (spelled_scan cs).lexed
  rwa [chars_scan] at h

/-- A text is cut in one way only. -/
theorem Lexed.kinds_scanFrom (h : Lexed cs ks) (offset : Nat) :
    (scanFrom offset cs).1.map Token.kind = ks := by
  induction h generalizing offset with
  | @finish gap hgap =>
    have hdrop : gap.dropWhile Text.isBlank = [] := List.dropWhile_eq_nil_iff.mpr hgap
    unfold scanFrom
    split
    · rfl
    · rename_i hcons
      rw [hdrop] at hcons
      cases hcons
  | @token gap source rest k ks hgap hsource hrest ih =>
    obtain ⟨c, cs, rfl, hc, hread⟩ := hsource
    have hdrop : (gap ++ (c :: cs ++ rest)).dropWhile Text.isBlank = c :: (cs ++ rest) := by
      rw [dropWhile_run hgap]
      · rfl
      · intro d hd
        cases hd
        exact hc
    unfold scanFrom
    split
    · rename_i hnil
      rw [hdrop] at hnil
      cases hnil
    · rename_i c' rest' hcons
      rw [hdrop] at hcons
      cases hcons
      rw [hread]
      dsimp only
      rw [List.map_cons, List.drop_left, ih]

/-- **The kinds of the tokens** are those that the text is cut into. -/
theorem lexed_iff : Lexed cs ks ↔ kindsOf cs = ks :=
  ⟨fun h => h.kinds_scanFrom 0, fun h => h ▸ lexed_kindsOf cs⟩

end Scanning

end Gridcalc
