import Gridcalc.Proofs.Formula.Following
import Gridcalc.Proofs.Formula.SheetNames
import Gridcalc.Proofs.Formula.Spans

/-!
# Error literals as operands

An error literal ends in a mark of its own, and is a token whatever stands behind it; only the
literal of a value that is not available has no such mark and goes on in some texts.

* `isErrorChar`, `GoesOn`: the texts in which a literal goes on;
* `readsAs_error_iff`, `ReadsAs.error_front`: an error is read again in front of all other texts;
* `scanFrom_append`, `scanFrom_add`: the tokens of a text behind a token;
* `Led`: what stands behind the operators of a formula;
* `tokenize_errorLiteral`: **a literal and a text behind it are the token of the error and the
  tokens of the text**, and an error that is an operand needs no blanks around it.
-/

namespace Gridcalc

/-! ## 1. The length of a literal -/

/-- The characters that mark the end of an error literal. -/
def isErrorMark (c : Char) : Bool := c == '!' || c == '?'

/-- The characters with which an error literal without a mark at its end goes on. -/
def isErrorChar (c : Char) : Bool := isErrorMark c || Text.isAsciiAlphanumeric c || c == '/'

/-- The literal of the error goes on in the text behind it. -/
def GoesOn (e : ErrorValue) (tail : List Char) : Prop :=
  e = .notAvailable ∧ ∃ c ∈ tail.head?, isErrorChar c = true

section Lengths

variable {c : Char} {cs tail : List Char}

theorem errorLength_cons (c : Char) (cs : List Char) : errorLength (c :: cs) =
    if isErrorMark c then 1 else if isErrorChar c then errorLength cs + 1 else 0 := by
  rw [errorLength]
  by_cases hmark : c = '!' ∨ c = '?'
  · simp [isErrorMark, hmark]
  · have hnone : isErrorMark c = false := by simpa [isErrorMark] using hmark
    simp only [hmark, if_false, isErrorChar, hnone, Bool.false_or, Bool.false_eq_true]

/-- Another character ends a literal. -/
theorem errorLength_eq_zero (h : ∀ c ∈ tail.head?, isErrorChar c = false) :
    errorLength tail = 0 := by
  cases tail with
  | nil => rfl
  | cons c tail =>
    have hc := h c rfl
    have hmark : isErrorMark c = false := by
      simp only [isErrorChar, Bool.or_eq_false_iff] at hc
      exact hc.1.1
    simp [errorLength_cons, hc, hmark]

theorem errorLength_pos (h : ∃ c ∈ tail.head?, isErrorChar c = true) : 0 < errorLength tail := by
  obtain ⟨c, hc, hchar⟩ := h
  obtain ⟨cs, rfl⟩ := List.head?_eq_some_iff.mp hc
  rw [errorLength_cons, hchar, if_pos rfl]
  split
  · exact Nat.one_pos
  · exact Nat.succ_pos _

/-- A literal ends at its mark, or where the text behind it does not go on with it. -/
theorem errorLength_append (h : (∃ c ∈ cs, isErrorMark c = true) ∨ errorLength tail = 0) :
    errorLength (cs ++ tail) = errorLength cs := by
  induction cs with
  | nil => exact h.resolve_left (by simp)
  | cons c cs ih =>
    rw [List.cons_append, errorLength_cons, errorLength_cons]
    cases hmark : isErrorMark c with
    | true => rfl
    | false =>
      have hrest : (∃ c ∈ cs, isErrorMark c = true) ∨ errorLength tail = 0 :=
        h.imp_left fun ⟨d, hd, hend⟩ => by
          rcases List.mem_cons.mp hd with rfl | hd
          · rw [hmark] at hend
            cases hend
          · exact ⟨d, hd, hend⟩
      rw [ih hrest]

/-- A literal that ends in front of some text ends without it as well. -/
theorem errorLength_of_append (h : errorLength (cs ++ tail) = cs.length) :
    errorLength cs = cs.length := by
  induction cs with
  | nil => rfl
  | cons c cs ih =>
    rw [List.cons_append, errorLength_cons, List.length_cons] at h
    rw [errorLength_cons, List.length_cons]
    cases hmark : isErrorMark c with
    | true =>
      rw [hmark, if_pos rfl] at h
      exact h
    | false =>
      rw [hmark, if_neg Bool.false_ne_true] at h
      rw [if_neg Bool.false_ne_true]
      split at h
      · rename_i hgo
        rw [if_pos hgo, ih (Nat.add_right_cancel h)]
      · cases h

/-- A literal without a mark goes on with the text behind it. -/
theorem errorLength_append_of_no_mark (h : errorLength cs = cs.length)
    (hmark : ∀ c ∈ cs, isErrorMark c = false) :
    errorLength (cs ++ tail) = cs.length + errorLength tail := by
  induction cs with
  | nil => rw [List.nil_append, List.length_nil, Nat.zero_add]
  | cons c cs ih =>
    obtain ⟨hc, hrest⟩ := List.forall_mem_cons.mp hmark
    rw [errorLength_cons, hc, if_neg Bool.false_ne_true, List.length_cons] at h
    rw [List.cons_append, errorLength_cons, hc, if_neg Bool.false_ne_true]
    split at h
    · rename_i hgo
      rw [if_pos hgo, ih (Nat.add_right_cancel h) hrest, List.length_cons, Nat.add_right_comm]
    · cases h

end Lengths

/-! ## 2. Errors in front of other texts -/

section Errors

variable {c : Char} {cs source tail tail' : List Char} {e : ErrorValue} {n : Nat}

/-- The characters of an error are those of its literal, ASCII case aside. -/
theorem ofLiteral?_eq_some_iff : ErrorValue.ofLiteral? (String.ofList cs) = some e ↔
    cs.map Char.toUpper = e.literal.toList := by
  have hcapitals : Text.asciiCapitals (String.ofList cs) = String.ofList (cs.map Char.toUpper) := by
    rw [Text.asciiCapitals, String.toList_ofList]
  constructor
  · intro h
    have hliteral := List.find?_some h
    rw [beq_iff_eq, hcapitals] at hliteral
    rw [hliteral, String.toList_ofList]
  · intro h
    have hself := ErrorValue.ofLiteral?_literal e
    have hliteral : Text.asciiCapitals e.literal = e.literal := by cases e <;> decide
    rw [ErrorValue.ofLiteral?, hliteral] at hself
    rw [ErrorValue.ofLiteral?, hcapitals, h, String.ofList_toList]
    exact hself

/-- Only marks have marks as their capitals. -/
theorem isErrorMark_toUpper (c : Char) : isErrorMark c.toUpper = isErrorMark c := by
  by_cases hascii : c.toNat < 128
  · exact forall_ascii (P := fun c => isErrorMark c.toUpper = isErrorMark c) (by decide) hascii
  · have hkeep : c.toUpper = c := by
      refine dif_neg fun hlower => ?_
      have hle := UInt32.le_iff_toNat_le.mp hlower.2
      have hz : 'z'.val.toNat = 122 := rfl
      have hval : c.toNat = c.val.toNat := rfl
      omega
    rw [hkeep]

/-- All literals but one have a mark. -/
theorem exists_mark (h : cs.map Char.toUpper = e.literal.toList) (he : e ≠ .notAvailable) :
    ∃ c ∈ cs, isErrorMark c = true := by
  have hliteral : ∃ d ∈ e.literal.toList, isErrorMark d = true := by
    refine List.any_eq_true.mp ?_
    cases e <;> first | exact absurd rfl he | decide
  rw [← h] at hliteral
  obtain ⟨d, hd, hmark⟩ := hliteral
  obtain ⟨c, hc, rfl⟩ := List.mem_map.mp hd
  exact ⟨c, hc, isErrorMark_toUpper c ▸ hmark⟩

theorem no_mark (h : cs.map Char.toUpper = ErrorValue.notAvailable.literal.toList) :
    ∀ c ∈ cs, isErrorMark c = false := by
  intro c hc
  have hnone : ∀ d ∈ ErrorValue.notAvailable.literal.toList, ¬isErrorMark d = true :=
    List.any_eq_false.mp (by decide)
  rw [← isErrorMark_toUpper]
  exact Bool.eq_false_iff.mpr (hnone _ (h ▸ List.mem_map_of_mem hc))

/-- No literal goes on behind that of a value that is not available. -/
theorem eq_nil_of_literal_append (h : ErrorValue.notAvailable.literal.toList ++ tail =
    e.literal.toList) : tail = [] := by
  have hprefix : ErrorValue.notAvailable.literal.toList <+: e.literal.toList := ⟨tail, h⟩
  cases e <;> first
    | exact List.append_right_eq_self.mp h
    | exact absurd hprefix (by decide)

theorem readQualified_ne_error (c : Char) (cs sheet : List Char) (n : Nat) :
    (readQualified c cs sheet n).1 ≠ .error e := by
  unfold readQualified
  dsimp only
  split
  · split <;> exact nofun
  · exact nofun

theorem readSheetToken_ne_error (cs : List Char) : (readSheetToken cs).1 ≠ .error e := by
  unfold readSheetToken
  split
  · exact nofun
  · split
    · exact readQualified_ne_error _ _ _ _
    · exact nofun

theorem readNameToken_ne_error (c : Char) (cs : List Char) : (readNameToken c cs).1 ≠ .error e := by
  unfold readNameToken
  dsimp only
  split
  · exact readQualified_ne_error _ _ _ _
  · exact nofun
  · split
    · split <;> exact nofun
    · exact nofun

theorem readNumberToken_ne_error (c : Char) (cs : List Char) :
    (readNumberToken c cs).1 ≠ .error e := by
  unfold readNumberToken
  dsimp only
  split <;> exact nofun

/-- Errors start with a number sign. -/
theorem eq_sign_of_error (h : readToken c cs = (.error e, n)) : c = '#' := by
  have hkind : (readToken c cs).1 = .error e := congrArg Prod.fst h
  have hword : (readToken c cs).1.isWord = true := by
    rw [hkind]
    rfl
  rcases exists_of_isWord hword with rfl | rfl | rfl | hnumber | hname
  · cases hkind
  · rfl
  · rw [readToken_sheet] at hkind
    exact absurd hkind (readSheetToken_ne_error cs)
  · rw [readToken_number hnumber] at hkind
    exact absurd hkind (readNumberToken_ne_error c cs)
  · rw [readToken_name hname] at hkind
    exact absurd hkind (readNameToken_ne_error c cs)

/-- **Where an error is read**: the characters are its literal, which ends there. -/
theorem readsAs_error_iff : ReadsAs (.error e) source tail ↔ ∃ cs, source = '#' :: cs ∧
    source.map Char.toUpper = e.literal.toList ∧ errorLength (cs ++ tail) = cs.length := by
  constructor
  · rintro ⟨c, cs, rfl, -, hread⟩
    obtain rfl := eq_sign_of_error hread
    have hlength : errorLength (cs ++ tail) = cs.length := by
      rw [← readErrorToken_snd, ← readToken_error, hread]
    refine ⟨cs, rfl, ?_, hlength⟩
    rw [readToken_error] at hread
    unfold readErrorToken at hread
    rw [hlength] at hread
    dsimp only at hread
    rw [List.take_left] at hread
    split at hread
    · rename_i hliteral
      cases hread
      exact ofLiteral?_eq_some_iff.mp hliteral
    · cases hread
  · rintro ⟨cs, rfl, hcapitals, hlength⟩
    refine ⟨'#', cs, rfl, by decide, ?_⟩
    rw [readToken_error]
    unfold readErrorToken
    rw [hlength]
    dsimp only
    rw [List.take_left, ofLiteral?_eq_some_iff.mpr hcapitals]

/-- **An error is read again in front of every text in which it does not go on.** -/
theorem ReadsAs.error_front (h : ReadsAs (.error e) source tail) (hnot : ¬GoesOn e tail') :
    ReadsAs (.error e) source tail' := by
  obtain ⟨cs, rfl, hcapitals, hlength⟩ := readsAs_error_iff.mp h
  refine readsAs_error_iff.mpr ⟨cs, rfl, hcapitals, ?_⟩
  rw [errorLength_append, errorLength_of_append hlength]
  by_cases he : e = .notAvailable
  · refine .inr (errorLength_eq_zero fun c hc => Bool.eq_false_iff.mpr fun hchar => ?_)
    exact hnot ⟨he, c, hc, hchar⟩
  · obtain ⟨c, hc, hmark⟩ := exists_mark hcapitals he
    rcases List.mem_cons.mp hc with rfl | hc
    · cases hmark
    · exact .inl ⟨c, hc, hmark⟩

/-- Where an error goes on, an unknown token is read. -/
theorem ReadsAs.error_unknown (h : ReadsAs (.error e) source tail) (hon : GoesOn e tail') :
    ∃ s ks, kindsOf (source ++ tail') = .unknown s :: ks := by
  obtain ⟨rfl, hhead⟩ := hon
  obtain ⟨cs, rfl, hcapitals, hlength⟩ := readsAs_error_iff.mp h
  have hnone := no_mark hcapitals
  have hmore : errorLength (cs ++ tail') = cs.length + errorLength tail' :=
    errorLength_append_of_no_mark (errorLength_of_append hlength)
      fun c hc => hnone c (List.mem_cons_of_mem _ hc)
  have hpos := errorLength_pos hhead
  have hunknown : ∃ s, (readErrorToken (cs ++ tail')).1 = .unknown s := by
    unfold readErrorToken
    dsimp only
    split
    · rename_i e' hliteral
      rw [hmore, List.take_length_add_append] at hliteral
      have hlonger := ofLiteral?_eq_some_iff.mp hliteral
      rw [← List.cons_append, List.map_append, hcapitals] at hlonger
      have htaken := congrArg List.length (eq_nil_of_literal_append hlonger)
      rw [List.length_map, List.length_take_of_le (errorLength_le tail')] at htaken
      exact absurd htaken (Nat.ne_of_gt hpos)
    · exact ⟨_, rfl⟩
  obtain ⟨s, hs⟩ := hunknown
  rw [List.cons_append, kindsOf_cons (by decide), readToken_error, hs]
  exact ⟨s, _, rfl⟩

end Errors

/-! ## 3. A text behind a token -/

/-- The same token so many bytes later. -/
def Token.moved (n : Nat) (t : Token) : Token := { t with start := t.start + n }

section Behind

variable {c : Char} {cs rest source tail : List Char} {k : TokenKind}

theorem Token.stop_moved (n : Nat) (t : Token) : (t.moved n).stop = t.stop + n :=
  Nat.add_right_comm t.start n _

/-- The token that a text starts with, where `c` is the first character that is no blank. -/
def firstToken (offset : Nat) (gap : List Char) (c : Char) (rest : List Char) : Token :=
  { kind := (readToken c rest).1, gap, source := c :: rest.take (readToken c rest).2,
    start := offset + byteLength gap }

theorem firstToken_add (offset n : Nat) (gap : List Char) (c : Char) (rest : List Char) :
    firstToken (offset + n) gap c rest = (firstToken offset gap c rest).moved n := by
  rw [firstToken, firstToken, Token.moved, Nat.add_right_comm]

theorem scanFrom_cons (h : cs.dropWhile Text.isBlank = c :: rest) (offset : Nat) :
    let first := firstToken offset (cs.takeWhile Text.isBlank) c rest
    let more := scanFrom first.stop (rest.drop (readToken c rest).2)
    scanFrom offset cs = (first :: more.1, more.2) := by
  rw [scanFrom]
  split
  · rename_i hnil
    rw [h] at hnil
    cases hnil
  · rename_i c' rest' hcons
    rw [h] at hcons
    cases hcons
    rfl

/-- A text that starts later has the same tokens later. -/
theorem scanFrom_add (offset n : Nat) (cs : List Char) : scanFrom (offset + n) cs =
    ((scanFrom offset cs).1.map (Token.moved n), (scanFrom offset cs).2.moved n) := by
  fun_induction scanFrom offset cs with
  | case1 offset cs gap start h =>
    unfold scanFrom
    split
    · simp [Token.moved, gap, start, Nat.add_right_comm]
    · rename_i hcons
      rw [h] at hcons
      cases hcons
  | case2 offset cs gap start c rest h m token tokens finish hs ih =>
    have htoken : token = firstToken offset gap c rest := rfl
    rw [hs, htoken] at ih
    rw [scanFrom_cons h, firstToken_add, Token.stop_moved, ih, htoken]
    rfl

/-- A token in front of a text, and the tokens of the text behind it. -/
theorem scanFrom_append (h : ReadsAs k source tail) (offset : Nat) :
    scanFrom offset (source ++ tail) =
      ({ kind := k, gap := [], source, start := offset } ::
        (scanFrom (offset + byteLength source) tail).1,
        (scanFrom (offset + byteLength source) tail).2) := by
  obtain ⟨c, cs, rfl, hblank, hread⟩ := h
  have hrest : (c :: (cs ++ tail)).dropWhile Text.isBlank = c :: (cs ++ tail) := by simp [hblank]
  have hgap : (c :: (cs ++ tail)).takeWhile Text.isBlank = [] := by simp [hblank]
  have hfirst : firstToken offset [] c (cs ++ tail) =
      { kind := k, gap := [], source := c :: cs, start := offset } := by
    rw [firstToken, hread, List.take_left]
    rfl
  rw [List.cons_append, scanFrom_cons hrest, hgap, hfirst, hread, List.drop_left]
  rfl

/-- A literal is read as its error in front of every text in which it does not go on. -/
theorem readsAs_literal {e : ErrorValue} (hnot : ¬GoesOn e tail) :
    ReadsAs (.error e) e.literal.toList tail := by
  have hself : ReadsAs (.error e) e.literal.toList [] := by
    refine readsAs_error_iff.mpr ?_
    cases e <;> exact ⟨_, rfl, by decide, by decide⟩
  exact hself.error_front hnot

/-- The token of an error at the start of a text. -/
def literalToken (e : ErrorValue) : Token :=
  { kind := .error e, gap := [], source := e.literal.toList, start := 0 }

/-- **A literal and a text behind it** are the token of the error and the tokens of the text, unless
    the literal goes on in it. -/
theorem tokenize_literal_append (e : ErrorValue) (t : String) :
    tokenize (e.literal ++ t) =
        literalToken e :: (tokenize t).map (Token.moved e.literal.utf8ByteSize) ↔
      ¬GoesOn e t.toList := by
  constructor
  · intro h hon
    have hself : ReadsAs (.error e) e.literal.toList [] := readsAs_literal fun h => by
      obtain ⟨-, c, hc, -⟩ := h
      cases hc
    obtain ⟨s, ks, hkinds⟩ := hself.error_unknown hon
    have hsame := congrArg (List.map Token.kind) h
    rw [kinds_tokenize, String.toList_append, hkinds] at hsame
    cases hsame
  · intro hnot
    have hread := scanFrom_append (readsAs_literal hnot) 0
    rw [scanFrom_add, ← utf8ByteSize_eq] at hread
    rw [tokenize, scan, String.toList_append, hread, tokenize, scan, List.map_append]
    rfl

end Behind

/-! ## 4. What stands behind an operator -/

namespace TokenKind

/-- Whether an operand can start with a token. -/
def opens (k : TokenKind) : Bool := k.isWord || k == .openParen

/-- Behind an operator an operand starts. -/
def Leads (k k' : TokenKind) : Prop := k.isOperator = true → k'.opens = true

end TokenKind

/-- Tokens with an operand at both ends and behind every operator. -/
structure Led (ks : List TokenKind) : Prop where
  head : ∃ k ∈ ks.head?, k.opens = true
  chain : ks.IsChain TokenKind.Leads
  last : ∀ k ∈ ks.getLast?, k.isOperator = false

section Led

variable {n : Nat} {level : Level} {k : TokenKind} {ks ks' : List TokenKind} {e : Expr}

theorem Led.single (hk : k.opens = true) (hop : k.isOperator = false) : Led [k] := by
  refine ⟨⟨k, rfl, hk⟩, .singleton k, ?_⟩
  rintro k' ⟨⟩
  exact hop

/-- Tokens behind which others go on. -/
theorem Led.append (h : Led ks) (hchain : ks'.IsChain TokenKind.Leads)
    (hlast : ∀ k ∈ ks'.getLast?, k.isOperator = false) : Led (ks ++ ks') := by
  refine ⟨?_, h.chain.append hchain ?_, ?_⟩
  · obtain ⟨k, hk, hopens⟩ := h.head
    exact ⟨k, List.mem_head?_append_of_mem_head? hk, hopens⟩
  · intro k hk k' _ hop
    rw [h.last k hk] at hop
    cases hop
  · intro k hk
    rw [List.getLast?_append, Option.mem_def, Option.or_eq_some_iff] at hk
    rcases hk with hk | ⟨-, hk⟩
    · exact hlast k hk
    · exact h.last k hk

/-- A token in front of tokens with an operand at both ends. -/
theorem Led.cons (h : Led ks) : (k :: ks).IsChain TokenKind.Leads ∧
    ∀ k' ∈ (k :: ks).getLast?, k'.isOperator = false := by
  obtain ⟨k', hk', hopens⟩ := h.head
  refine ⟨h.chain.cons fun k'' hk'' _ => ?_, fun k'' hk'' => ?_⟩
  · rw [Option.mem_unique hk'' hk']
    exact hopens
  · obtain ⟨ks, rfl⟩ := List.head?_eq_some_iff.mp hk'
    rw [List.getLast?_cons_cons] at hk''
    exact h.last k'' hk''

theorem Led.cons_opens (hk : k.opens = true) (h : Led ks) : Led (k :: ks) :=
  ⟨⟨k, rfl, hk⟩, h.cons.1, h.cons.2⟩

/-- A closing mark behind tokens with an operand at both ends. -/
theorem Led.closed (h : Led ks) (hk : k.isOperator = false) : Led (ks ++ [k]) :=
  h.append (.singleton k) fun k' hk' => by
    cases hk'
    exact hk

/-- Operands stand behind the operators of what is derived. -/
theorem Derives.led (h : Derives n level ks e) : Led ks := by
  induction h with
  | tighter _ ih => exact ih
  | binary _ _ _ ihl ihr => exact ihl.append ihr.cons.1 ihr.cons.2
  | range _ _ ih =>
    have hcorner : ∀ sheet address, Led [.cell sheet address] := fun _ _ => .single rfl rfl
    exact ih.append (hcorner _ _).cons.1 (hcorner _ _).cons.2
  | group _ ih => exact (ih.cons_opens rfl).closed rfl
  | emptyCall name =>
    exact ((Led.single (k := .openParen) rfl rfl).cons_opens (k := .name name) rfl).closed rfl
  | firstArgument name _ ih => exact (ih.cons_opens rfl).cons_opens rfl
  | nextArgument _ _ ihcall ih => exact ihcall.append ih.cons.1 ih.cons.2
  | call _ ih => exact ih.closed rfl
  | _ => exact .single rfl rfl

end Led

/-! ## 5. Errors as operands -/

/-- A text without the blanks in front of three tokens. -/
def unspaced (before : List Token) (literal operator operand : Token) (rest : List Char) :
    List Char :=
  before.flatMap Token.chars ++ (literal.source ++ (operator.source ++ (operand.source ++ rest)))

section Operands

variable {fin rest source : List Char} {before behind : List Token}
  {literal operator operand t : Token} {k : TokenKind} {ks : List TokenKind} {e : ErrorValue}
  {formula : String} {tree : Expr}

theorem Lexed.cons (hsource : ReadsAs k rest fin) (hfin : Lexed fin ks) :
    Lexed (rest ++ fin) (k :: ks) := by
  have h := Lexed.token allBlank_nil hsource hfin
  exact h

theorem Joined.right {ks' : List TokenKind} (h : Joined (ks ++ ks')) : Joined ks' :=
  ⟨fun k hk => h.known k (List.mem_append_right _ hk), (List.isChain_append.mp h.chain).2.1⟩

/-- The tokens in front of an error are read again in front of every operand. -/
theorem Spelled.lexed_before (h : Spelled fin (before ++ t :: behind))
    (hjoin : Joined ((before ++ t :: behind).map Token.kind)) (ht : t.kind = .error e)
    (hhead : ∃ c ∈ rest.head?, c ≠ '=' ∧ c ≠ '>') (hrest : Lexed rest ks) :
    Lexed (before.flatMap Token.chars ++ rest) (before.map Token.kind ++ ks) := by
  rcases List.eq_nil_or_concat before with rfl | ⟨us, u, rfl⟩
  · exact hrest
  · rw [List.concat_eq_append, List.append_assoc, List.singleton_append] at h hjoin
    rw [List.concat_eq_append, List.flatMap_append, List.map_append, List.append_assoc,
      List.append_assoc, List.flatMap_singleton]
    have hlast := h.drop us.length
    rw [List.drop_left] at hlast
    rw [List.map_append] at hjoin
    cases hlast with
    | cons hgap hsource hspelled =>
      -- no word stands in front of an error
      have hmark : ∃ m, u.kind.mark? = some m := by
        refine (hjoin.right.known u.kind List.mem_cons_self).resolve_left fun hword => ?_
        rcases hjoin.right.head_joins t.kind rfl hword with hcloses | ⟨-, hopen⟩
        · rw [ht] at hcloses
          cases hcloses
        · rw [ht] at hopen
          cases hopen
      obtain ⟨m, hm⟩ := hmark
      have hfree : ∀ c ∈ rest.head?, c ≠ '=' ∧ c ≠ '>' := fun c hc => by
        obtain ⟨d, hd, hne⟩ := hhead
        rwa [Option.mem_unique hc hd]
      have hu : Lexed (u.chars ++ rest) (u.kind :: ks) := by
        rw [Token.chars, List.append_assoc]
        exact .token hgap (hsource.tail_mark hm (.inr hfree)) hrest
      rw [← List.map_append] at hjoin
      refine h.lexed_append hjoin ?_ hu
      rw [List.flatMap_cons, List.append_assoc, List.head?_append_of_ne_nil _ hsource.chars_ne_nil,
        List.head?_append_of_ne_nil _ hsource.chars_ne_nil]

/-- What an operand starts with makes no other operator of the one in front of it. -/
theorem head_of_opens (h : ReadsAs k rest fin) (hk : k.opens = true) :
    ∃ c ∈ rest.head?, c ≠ '=' ∧ c ≠ '>' := by
  rcases Bool.or_eq_true_iff.mp hk with hword | hopen
  · exact head_of_isWord h hword
  · obtain rfl := beq_iff_eq.mp hopen
    rw [h.source_eq rfl]
    exact ⟨'(', rfl, by decide, by decide⟩

/-- Of the marks of operators an error goes on with the slash only. -/
theorem mark_of_isOperator (h : k.isOperator = true) :
    ∃ c m, k.mark? = some (c :: m) ∧ (isErrorChar c = true ↔ k = .slash) := by
  cases k <;> first
    | exact ⟨_, _, rfl, by decide⟩
    | cases h

/-- An operator is read again in front of what makes no other operator of it. -/
theorem ReadsAs.operator_front (h : ReadsAs k source fin) (hk : k.isOperator = true)
    (hhead : ∃ d ∈ rest.head?, d ≠ '=' ∧ d ≠ '>') (hrest : Lexed rest ks) :
    Lexed (source ++ rest) (k :: ks) := by
  obtain ⟨c, m, hmark, -⟩ := mark_of_isOperator hk
  obtain ⟨d, hd, hfree⟩ := hhead
  refine .cons (h.tail_mark hmark (.inr fun d' hd' => ?_)) hrest
  rwa [Option.mem_unique hd' hd]

/-- The one error that goes on in an operator is the one that goes on with a slash. -/
theorem ReadsAs.goesOn_operator (h : ReadsAs k source fin) (hk : k.isOperator = true) :
    GoesOn e (source ++ rest) ↔ e = .notAvailable ∧ k = .slash := by
  obtain ⟨c, m, hmark, hslash⟩ := mark_of_isOperator hk
  rw [GoesOn, h.source_eq hmark, List.cons_append, ← hslash]
  simp

/-- **An error that is an operand needs no blanks around it**, unless it goes on in the operator. -/
theorem parseFormula_unspaced (hread : parseFormula formula = ⟨some tree, []⟩)
    (hscan : (scan formula.toList).1 = before ++ literal :: operator :: operand :: behind)
    (hliteral : literal.kind = .error e) (hoperator : operator.kind.isOperator = true) :
    parseFormula (String.ofList (unspaced before literal operator operand
        (behind.flatMap Token.chars ++ (scan formula.toList).2.chars))) = ⟨some tree, []⟩ ↔
      ¬(e = .notAvailable ∧ operator.kind = .slash) := by
  obtain ⟨ks, hkinds, hderives, hcount⟩ := parseFormula_eq_iff.mp hread
  have hspelled := spelled_scan formula.toList
  have hjoin := joined_kindsOf hread
  have hchain : (kindsOf formula.toList).IsChain TokenKind.Leads := hkinds ▸ hderives.led.cons.1
  rw [kindsOf, hscan] at hkinds hjoin hchain
  rw [hscan] at hspelled
  have hthree := hspelled.drop before.length
  rw [List.drop_left] at hthree
  generalize (scan formula.toList).2.chars = fin at hspelled hthree ⊢
  cases hthree with
  | cons _ hfirst hspelled' =>
  cases hspelled' with
  | cons _ hsecond hspelled' =>
  cases hspelled' with
  | cons _ hthird hrest =>
  rw [hliteral] at hfirst
  generalize hbehind : behind.flatMap Token.chars ++ fin = rest at *
  have hopens : operand.kind.opens = true := by
    rw [List.map_append] at hchain
    exact (List.isChain_cons_cons.mp (List.isChain_append.mp hchain).2.1.tail).1 hoperator
  obtain ⟨d, hd, hfree⟩ := head_of_opens hthird hopens
  have hoperand : Lexed (operand.source ++ rest) (operand.kind :: behind.map Token.kind) :=
    .cons hthird (hbehind ▸ hrest.lexed)
  have hmiddle := hsecond.operator_front hoperator
    ⟨d, List.mem_head?_append_of_mem_head? hd, hfree⟩ hoperand
  have hgoesOn : GoesOn e (operator.source ++ (operand.source ++ rest)) ↔
      e = .notAvailable ∧ operator.kind = .slash := hsecond.goesOn_operator hoperator
  obtain ⟨d, hd, hfree⟩ := head_of_isWord hfirst rfl
  have hhead : ∃ d ∈ (literal.source ++ (operator.source ++ (operand.source ++ rest))).head?,
      d ≠ '=' ∧ d ≠ '>' := ⟨d, List.mem_head?_append_of_mem_head? hd, hfree⟩
  rw [unspaced]
  constructor
  · intro hclosed hbad
    obtain ⟨s, ks', hunknown⟩ := hfirst.error_unknown (hgoesOn.mpr hbad)
    have hlexed := hspelled.lexed_before hjoin hliteral hhead (hunknown ▸ lexed_kindsOf _)
    have hknown := (joined_kindsOf hclosed).known (.unknown s)
    rw [String.toList_ofList, lexed_iff.mp hlexed] at hknown
    rcases hknown (by simp) with hword | ⟨m, hm⟩
    · cases hword
    · cases hm
  · intro hnot
    have hlexed := hspelled.lexed_before hjoin hliteral hhead
      (.cons (hfirst.error_front fun hon => hnot (hgoesOn.mp hon)) hmiddle)
    refine parseFormula_eq_iff.mpr ⟨ks, ?_, hderives, hcount⟩
    rw [String.toList_ofList, ← hkinds, List.map_append, List.map_cons, hliteral]
    exact lexed_iff.mp hlexed

/-- **A literal and a text behind it are the token of the error and the tokens of the text**, unless
    the value is not available and the text goes on with a mark of errors, a letter, a digit or a
    slash. Of the blanks and the characters of operators, separators and parentheses this is the
    slash. In a formula an error is the left operand of an operator without blanks around the two
    in all other cases. -/
theorem tokenize_errorLiteral (e : ErrorValue) (t : String) :
    (tokenize (e.literal ++ t) =
        literalToken e :: (tokenize t).map (Token.moved e.literal.utf8ByteSize) ↔
      ¬GoesOn e t.toList) ∧
    (∀ c, endsWord c = true → (isErrorChar c = true ↔ c = '/')) ∧
    ∀ (formula : String) (tree : Expr), parseFormula formula = ⟨some tree, []⟩ →
      ∀ (before behind : List Token) (literal operator operand : Token),
        (scan formula.toList).1 = before ++ literal :: operator :: operand :: behind →
        literal.kind = .error e → operator.kind.isOperator = true →
        (parseFormula (String.ofList (unspaced before literal operator operand
            (behind.flatMap Token.chars ++ (scan formula.toList).2.chars))) = ⟨some tree, []⟩ ↔
          ¬(e = .notAvailable ∧ operator.kind = .slash)) := by
  refine ⟨tokenize_literal_append e t, fun c hc => ?_, ?_⟩
  · have hcodes : ∀ n ∈ endCodes, isErrorChar (Char.ofNat n) = true ↔ Char.ofNat n = '/' := by
      decide
    exact forall_endsWord (P := fun c => isErrorChar c = true ↔ c = '/') hcodes hc
  · intro formula tree hread before behind literal operator operand hscan hliteral hoperator
    exact parseFormula_unspaced hread hscan hliteral hoperator

/-- Without the blanks the sum is read, and the quotient is not. -/
theorem tokenize_errorLiteral_notAvailable :
    parseFormula "=#N/A + A1" =
      ⟨some (.binary .add (.error .notAvailable) (.cell none ⟨0, 0, false, false⟩)), []⟩ ∧
    parseFormula "=#N/A+A1" =
      ⟨some (.binary .add (.error .notAvailable) (.cell none ⟨0, 0, false, false⟩)), []⟩ ∧
    parseFormula "=#N/A / A1" =
      ⟨some (.binary .divide (.error .notAvailable) (.cell none ⟨0, 0, false, false⟩)), []⟩ ∧
    parseFormula "=#N/A/A1" ≠
      ⟨some (.binary .divide (.error .notAvailable) (.cell none ⟨0, 0, false, false⟩)), []⟩ := by
  have hsum : parseFormula "=#N/A + A1" =
      ⟨some (.binary .add (.error .notAvailable) (.cell none ⟨0, 0, false, false⟩)), []⟩ := by
    with_unfolding_all rfl
  have hquotient : parseFormula "=#N/A / A1" =
      ⟨some (.binary .divide (.error .notAvailable) (.cell none ⟨0, 0, false, false⟩)), []⟩ := by
    with_unfolding_all rfl
  have hplus := (tokenize_errorLiteral .notAvailable "+A1").2.2 _ _ hsum
    [⟨.equals, [], ['='], 0⟩] [] ⟨.error .notAvailable, [], "#N/A".toList, 1⟩
    ⟨.plus, [' '], ['+'], 6⟩ ⟨.cell none ⟨0, 0, false, false⟩, [' '], "A1".toList, 8⟩
    (by decide +kernel) rfl rfl
  have hslash := (tokenize_errorLiteral .notAvailable "/A1").2.2 _ _ hquotient
    [⟨.equals, [], ['='], 0⟩] [] ⟨.error .notAvailable, [], "#N/A".toList, 1⟩
    ⟨.slash, [' '], ['/'], 6⟩ ⟨.cell none ⟨0, 0, false, false⟩, [' '], "A1".toList, 8⟩
    (by decide +kernel) rfl rfl
  have hsumText : String.ofList (unspaced [⟨.equals, [], ['='], 0⟩]
      ⟨.error .notAvailable, [], "#N/A".toList, 1⟩ ⟨.plus, [' '], ['+'], 6⟩
      ⟨.cell none ⟨0, 0, false, false⟩, [' '], "A1".toList, 8⟩
      ((scan "=#N/A + A1".toList).2.chars)) = "=#N/A+A1" := by decide +kernel
  have hquotientText : String.ofList (unspaced [⟨.equals, [], ['='], 0⟩]
      ⟨.error .notAvailable, [], "#N/A".toList, 1⟩ ⟨.slash, [' '], ['/'], 6⟩
      ⟨.cell none ⟨0, 0, false, false⟩, [' '], "A1".toList, 8⟩
      ((scan "=#N/A / A1".toList).2.chars)) = "=#N/A/A1" := by decide +kernel
  rw [List.flatMap_nil, List.nil_append, hsumText] at hplus
  rw [List.flatMap_nil, List.nil_append, hquotientText] at hslash
  exact ⟨hsum, hplus.mpr (by decide), hquotient, fun h => hslash.mp h ⟨rfl, rfl⟩⟩

end Operands

end Gridcalc
