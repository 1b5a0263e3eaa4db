import Gridcalc.Proofs.Formula.Language
import Gridcalc.Proofs.Formula.Renaming
import Gridcalc.Proofs.Number.Naturals

/-!
# Written formulas are read back

What `Expr.chars` writes for a tree is cut into the tokens that were written, and these derive the
tree again: parentheses stand exactly where the tree would read differently without them.

* `readsAs_text`, `readsAs_natural`, `readsAs_bareName`, `readsAs_calledName`: words;
* `Expr.kinds`, `Expr.nesting`: the tokens of a written tree, and how deeply its parentheses nest;
* `Expr.Printable`, `Expr.Printable.phrase`, `Expr.Printable.derives`: the trees that can be read
  back, their text and their derivation;
* `parseFormula_render`: **a written formula is read back as the tree it was written for**.
-/

namespace Gridcalc

/-! ## 1. Words -/

section Words

variable {c : Char} {cs rest tail more : List Char} {k : Nat}

/-- A text in quotes is read again, also if it holds some itself. -/
theorem readQuoted_doubled (h : ∀ d ∈ more.head?, d ≠ '"') :
    readQuoted (doubled '"' cs ++ '"' :: more) = (cs, (doubled '"' cs).length + 1) := by
  induction cs with
  | nil => exact readQuoted_close h
  | cons c cs ih =>
    by_cases hc : c = '"'
    · have hdoubled : doubled '"' (c :: cs) = '"' :: '"' :: doubled '"' cs := by
        simp [doubled, hc]
      rw [hdoubled, List.cons_append, List.cons_append, readQuoted_double, ih, hc]
      rfl
    · have hdoubled : doubled '"' (c :: cs) = c :: doubled '"' cs := by
        simp [doubled, hc]
      rw [hdoubled, List.cons_append, readQuoted_cons hc, ih]
      rfl

theorem readsAs_text (s : String) (hstop : Stops tail) :
    ReadsAs (.text s) ('"' :: doubled '"' s.toList ++ ['"']) tail := by
  refine ⟨'"', doubled '"' s.toList ++ ['"'], rfl, by decide, ?_⟩
  rw [readToken_text, List.append_assoc, List.singleton_append,
    readQuoted_doubled fun d hd => (ne_of_endsWord (hstop d hd)).2.2.1, List.length_append]
  simp

/-- The digits of a natural number are one token. -/
theorem numberLength_naturalText (hstop : Stops tail) :
    numberLength (naturalText k ++ tail) = (naturalText k).length := by
  have hpoint : tail.head? ≠ some '.' := by
    intro h
    exact absurd (hstop.isNameChar '.' h) (by decide)
  rw [numberLength_eq, takeWhile_run (isDigit_naturalText k) hstop.isDigit]
  dsimp only
  rw [List.drop_left, if_neg hpoint, Nat.add_zero, List.drop_left, hstop.no_exponent, Nat.add_zero]

theorem readsAs_natural (hk : k < 2 ^ 53) (hstop : Stops tail) :
    ReadsAs (.number (Float.ofNat k)) (naturalText k) tail := by
  have hlength := numberLength_naturalText (k := k) hstop
  have hread := read?_naturalText hk
  have hall := isDigit_naturalText k
  obtain ⟨c, cs, hcs⟩ := List.exists_cons_of_ne_nil (naturalText_ne_nil k)
  rw [hcs] at hlength hread hall ⊢
  have hdigit : c.isDigit = true := hall c List.mem_cons_self
  refine ⟨c, cs, rfl, not_isBlank_of_isNameChar (isNameChar_of_isDigit hdigit), ?_⟩
  rw [List.cons_append] at hlength
  rw [readToken_number (by simp [startsNumber, hdigit])]
  unfold readNumberToken
  rw [hlength]
  dsimp only
  rw [List.length_cons, Nat.add_sub_cancel, List.take_left, hread]

/-- In front of a parenthesis every word is a name, also one that looks like an address. -/
theorem readsAs_calledName (hstarts : startsName c = true)
    (hrun : ∀ d ∈ c :: rest, isNameChar d = true) :
    ReadsAs (.name (String.ofList (c :: rest))) (c :: rest) ('(' :: tail) := by
  refine ⟨c, rest, rfl, not_isBlank_of_isNameChar (hrun c List.mem_cons_self), ?_⟩
  have htake : (rest ++ '(' :: tail).takeWhile isNameChar = rest := by
    refine takeWhile_run (fun d hd => hrun d (List.mem_cons_of_mem _ hd)) ?_
    rintro d ⟨⟩
    decide
  rw [readToken_name hstarts]
  unfold readNameToken
  rw [htake]
  dsimp only
  rw [List.drop_left]
  rfl

theorem readsAs_bareName (hstarts : startsName c = true)
    (hrun : ∀ d ∈ c :: rest, isNameChar d = true) (hshape : looksLikeCell (c :: rest) = false)
    (hstop : Stops tail) (hcall : NoCall tail) :
    ReadsAs (.name (String.ofList (c :: rest))) (c :: rest) tail := by
  refine ⟨c, rest, rfl, not_isBlank_of_isNameChar (hrun c List.mem_cons_self), ?_⟩
  have htake : (rest ++ tail).takeWhile isNameChar = rest :=
    takeWhile_run (fun d hd => hrun d (List.mem_cons_of_mem _ hd)) hstop.isNameChar
  rw [readToken_name hstarts]
  unfold readNameToken
  rw [htake]
  dsimp only
  rw [List.drop_left, hshape, if_neg Bool.false_ne_true]
  cases tail with
  | nil => rfl
  | cons d ds =>
    have hmark : d ≠ '!' := (ne_of_endsWord (hstop d rfl)).1
    have hopen : d ≠ '(' := hcall d rfl
    simp [hmark, hopen]

end Words

/-! ## 2. Written trees -/

/-- The name of a truth value. -/
def truthName (b : Bool) : String := if b then "TRUE" else "FALSE"

/-- Tokens in parentheses, if they are needed. -/
def groupedKinds (group : Bool) (ks : List TokenKind) : List TokenKind :=
  if group then .openParen :: ks ++ [.closeParen] else ks

namespace Expr

mutual

/-- The tokens of a written tree. -/
def kinds : Expr → List TokenKind
  | .number x => [.number x]
  | .text s => [.text s]
  | .boolean b => [.name (truthName b)]
  | .error e => [.error e]
  | .cell sheet address => [.cell sheet address]
  | .range sheet r => [.cell sheet r.start, .colon, .cell none r.stop]
  | .binary op left right =>
    groupedKinds (needsGroup op false left) (kinds left) ++
      op.token :: groupedKinds (needsGroup op true right) (kinds right)
  | .call name args =>
    .name name :: .openParen :: [TokenKind.comma].intercalate (kindsOfArgs args) ++ [.closeParen]

/-- The tokens of the written arguments of a call. -/
def kindsOfArgs : List Expr → List (List TokenKind)
  | [] => []
  | e :: es => kinds e :: kindsOfArgs es

end

mutual

/-- How deeply the parentheses of a written tree nest, those of calls among them. -/
def nesting : Expr → Nat
  | .binary op left right =>
    max (nesting left + (needsGroup op false left).toNat)
      (nesting right + (needsGroup op true right).toNat)
  | .call _ args => nestingOfArgs args + 1
  | _ => 0

/-- How deeply the parentheses of the written arguments of a call nest. -/
def nestingOfArgs : List Expr → Nat
  | [] => 0
  | e :: es => max (nesting e) (nestingOfArgs es)

end

theorem kindsOfArgs_eq (args : List Expr) : kindsOfArgs args = args.map kinds := by
  induction args with
  | nil => rfl
  | cons e es ih => rw [kindsOfArgs, ih, List.map_cons]

theorem nesting_le_of_mem {e : Expr} {args : List Expr} (h : e ∈ args) :
    nesting e ≤ nestingOfArgs args := by
  induction args with
  | nil => cases h
  | cons e' es ih =>
    rw [nestingOfArgs]
    rcases List.mem_cons.mp h with rfl | h
    · exact Nat.le_max_left _ _
    · exact Nat.le_trans (ih h) (Nat.le_max_right _ _)

theorem kinds_call (name : String) (args : List Expr) : (Expr.call name args).kinds =
    .name name :: .openParen :: [TokenKind.comma].intercalate (args.map kinds) ++
      [.closeParen] := by
  rw [kinds, kindsOfArgs_eq]

theorem charsOfArgs_cons (e : Expr) (es : List Expr) :
    charsOfArgs (e :: es) = chars e ++ es.flatMap fun e => ',' :: chars e := by
  induction es generalizing e with
  | nil => rw [charsOfArgs]; simp
  | cons e' es ih =>
    rw [charsOfArgs]
    rw [ih, List.flatMap_cons, List.cons_append]

end Expr

/-- How many parentheses are open at once at most, where `depth` of them are open in front. -/
def peak : Nat → List TokenKind → Nat
  | depth, [] => depth
  | depth, .openParen :: ks => peak (depth + 1) ks
  | depth, .closeParen :: ks => max depth (peak (depth - 1) ks)
  | depth, _ :: ks => peak depth ks

section Peaks

variable {e : Expr} {depth : Nat} {ks : List TokenKind}

theorem le_peak (depth : Nat) (ks : List TokenKind) : depth ≤ peak depth ks := by
  fun_induction peak depth ks with
  | case1 => exact Nat.le_refl _
  | case2 depth ks ih => omega
  | case3 depth ks ih => exact Nat.le_max_left _ _
  | case4 depth k ks hopen hclose ih => exact ih

theorem peak_comma : peak depth (.comma :: ks) = peak depth ks := rfl

theorem peak_operator (op : Operator) : peak depth (op.token :: ks) = peak depth ks := by
  cases op <;> rfl

/-- Parentheses around what nests `n` deep. -/
theorem peak_enclosed {inside : List TokenKind} {n : Nat}
    (h : ∀ depth ks, peak depth (inside ++ ks) = max (depth + n) (peak depth ks)) :
    peak depth (.openParen :: inside ++ [.closeParen] ++ ks) =
      max (depth + (n + 1)) (peak depth ks) := by
  have hle := le_peak depth ks
  rw [List.append_assoc, List.cons_append, peak, h, List.singleton_append, peak,
    Nat.add_sub_cancel]
  omega

theorem peak_groupedKinds {needed : Bool}
    (h : ∀ depth ks, peak depth (e.kinds ++ ks) = max (depth + e.nesting) (peak depth ks)) :
    peak depth (groupedKinds needed e.kinds ++ ks) =
      max (depth + (e.nesting + needed.toNat)) (peak depth ks) := by
  cases needed with
  | true => exact peak_enclosed h
  | false => exact h depth ks

theorem peak_arguments {args : List Expr}
    (h : ∀ e ∈ args, ∀ depth ks,
      peak depth (e.kinds ++ ks) = max (depth + e.nesting) (peak depth ks)) :
    peak depth ([TokenKind.comma].intercalate (args.map Expr.kinds) ++ ks) =
      max (depth + Expr.nestingOfArgs args) (peak depth ks) := by
  have hle := le_peak depth ks
  cases args with
  | nil => exact (Nat.max_eq_right hle).symm
  | cons e es =>
    rw [List.map_cons, Language.intercalate_cons, List.append_assoc]
    induction es generalizing e with
    | nil =>
      rw [List.map_nil, List.flatMap_nil, List.nil_append, h e List.mem_cons_self,
        Expr.nestingOfArgs, Expr.nestingOfArgs, Nat.max_zero]
    | cons e' es ih =>
      obtain ⟨he, hes⟩ := List.forall_mem_cons.mp h
      rw [he, List.map_cons, List.flatMap_cons, List.singleton_append, List.cons_append,
        List.cons_append, peak_comma, List.append_assoc, ih e' hes]
      simp only [Expr.nestingOfArgs]
      omega

/-- **The nesting of a tree is that of the parentheses that are written for it.** -/
theorem peak_kinds (e : Expr) (depth : Nat) (ks : List TokenKind) :
    peak depth (e.kinds ++ ks) = max (depth + e.nesting) (peak depth ks) := by
  induction e using Expr.treeInduction generalizing depth ks with
  | binary op left right ihleft ihright =>
    rw [Expr.kinds, Expr.nesting, List.append_assoc, peak_groupedKinds ihleft, List.cons_append,
      peak_operator, peak_groupedKinds ihright]
    omega
  | call name args ih =>
    rw [Expr.kinds_call, Expr.nesting]
    exact peak_enclosed fun _ _ => peak_arguments ih
  | _ => exact (Nat.max_eq_right (le_peak depth ks)).symm

end Peaks

/-- A character of the name of a function: an ASCII capital, a digit, an underscore or a point. -/
def isFunctionChar (c : Char) : Bool := c.isUpper || c.isDigit || c == '_' || c == '.'

/-- The names of functions: they begin with an ASCII capital or an underscore. -/
structure IsFunctionName (name : String) : Prop where
  head : ∃ c ∈ name.toList.head?, c.isUpper = true ∨ c = '_'
  all : ∀ c ∈ name.toList, isFunctionChar c = true

/-- The trees that can be read back from what is written for them. -/
inductive Expr.Printable : Expr → Prop
  | number {k : Nat} (h : k < 10 ^ 15) : Printable (.number (Float.ofNat k))
  | text (s : String) : Printable (.text s)
  | boolean (b : Bool) : Printable (.boolean b)
  | error {e : ErrorValue} (h : e ≠ .notAvailable) : Printable (.error e)
  | cell {sheet : Option String} {a : CellRef} (hsheet : ∀ name ∈ sheet, Prefixes name)
      (ha : a.onGrid = true) : Printable (.cell sheet a)
  | range {sheet : Option String} {r : RangeRef} (hsheet : ∀ name ∈ sheet, Prefixes name)
      (hstart : r.start.onGrid = true) (hstop : r.stop.onGrid = true) : Printable (.range sheet r)
  | binary (op : Operator) {left right : Expr} (hleft : Printable left)
      (hright : Printable right) : Printable (.binary op left right)
  | call {name : String} {args : List Expr} (hname : IsFunctionName name)
      (hargs : ∀ e ∈ args, Printable e) : Printable (.call name args)

section FunctionNames

variable {c : Char} {name : String}

theorem isFunctionChar_ascii (h : isFunctionChar c = true) : c.toNat < 128 := by
  simp only [isFunctionChar, Bool.or_eq_true, beq_iff_eq] at h
  rcases h with ((h | h) | rfl) | rfl
  · have hletter := isAlpha_iff.mp (isAlpha_of_isUpper h)
    omega
  · have hdigit := isDigit_iff.mp h
    omega
  · decide
  · decide

theorem isNameChar_of_isFunctionChar (h : isFunctionChar c = true) : isNameChar c = true := by
  simp only [isFunctionChar, Bool.or_eq_true, beq_iff_eq] at h
  rcases h with ((h | h) | rfl) | rfl
  · simp [isNameChar, Text.isLetterOrNumber, Text.isLetter_of_isAlpha (isAlpha_of_isUpper h)]
  · exact isNameChar_of_isDigit h
  · decide
  · decide

theorem toUpper_of_isFunctionChar (h : isFunctionChar c = true) : c.toUpper = c :=
  forall_ascii (P := fun c => isFunctionChar c = true → c.toUpper = c) (by decide)
    (isFunctionChar_ascii h) h

theorem uppercase_of_isFunctionChar {cs : List Char} (h : ∀ c ∈ cs, isFunctionChar c = true) :
    Text.uppercase cs = cs := by
  induction cs with
  | nil => rfl
  | cons c cs ih =>
    obtain ⟨hc, hrest⟩ := List.forall_mem_cons.mp h
    have hcapital : Text.capital c = [c] := by
      rw [Text.capital, if_pos (isFunctionChar_ascii hc), toUpper_of_isFunctionChar hc]
    rw [Text.uppercase, List.flatMap_cons, hcapital, ← Text.uppercase, ih hrest]
    rfl

/-- A name in ASCII capitals is its own in capitals. -/
theorem IsFunctionName.capitals_eq (h : IsFunctionName name) : capitals name = name := by
  rw [capitals, uppercase_of_isFunctionChar h.all, String.ofList_toList]

theorem IsFunctionName.word (h : IsFunctionName name) : ∃ c rest, name.toList = c :: rest ∧
    startsName c = true ∧ ∀ d ∈ c :: rest, isNameChar d = true := by
  obtain ⟨c, hc, hhead⟩ := h.head
  obtain ⟨rest, hrest⟩ := List.head?_eq_some_iff.mp hc
  refine ⟨c, rest, hrest, ?_, fun d hd => isNameChar_of_isFunctionChar (h.all d (hrest ▸ hd))⟩
  rcases hhead with hupper | rfl
  · simp [startsName, Text.isLetter_of_isAlpha (isAlpha_of_isUpper hupper)]
  · decide

/-- The name of a function is read as such in front of its arguments. -/
theorem IsFunctionName.readsAs (h : IsFunctionName name) (tail : List Char) :
    ReadsAs (.name name) name.toList ('(' :: tail) := by
  obtain ⟨c, rest, hword, hstarts, hrun⟩ := h.word
  have hread : ReadsAs (.name (String.ofList (c :: rest))) (c :: rest) ('(' :: tail) :=
    readsAs_calledName hstarts hrun
  rwa [← hword, String.ofList_toList] at hread

end FunctionNames

/-! ## 3. The text of a written tree -/

section Phrases

variable {gap cs tail : List Char} {ks ks' : List TokenKind} {name : String}

/-- What stands in parentheses: nothing, or a phrase. -/
theorem lexed_enclosed (hgap : AllBlank gap) (h : cs = [] ∧ ks = [] ∨ Phrase cs ks)
    (htail : Lexed tail ks') : Lexed (gap ++ (['('] ++ (cs ++ ')' :: tail)))
      (.openParen :: (ks ++ .closeParen :: ks')) := by
  have hclose : Lexed (')' :: tail) (.closeParen :: ks') :=
    .token allBlank_nil ⟨')', [], rfl, by decide, rfl⟩ htail
  refine .token hgap ⟨'(', [], rfl, by decide, rfl⟩ ?_
  rcases h with ⟨rfl, rfl⟩ | h
  · exact hclose
  · refine h.lexed allBlank_nil ?_ ?_ hclose
    · rintro d ⟨⟩
      decide
    · rintro d ⟨⟩
      decide

theorem Phrase.group (h : Phrase cs ks) :
    Phrase ('(' :: cs ++ [')']) (.openParen :: ks ++ [.closeParen]) := by
  refine ⟨⟨'(', rfl, by decide, by decide⟩, fun {gap tail ks'} hgap _ _ htail => ?_⟩
  simpa using lexed_enclosed hgap (.inr h) htail

theorem Phrase.grouped {needed : Bool} (h : Phrase cs ks) :
    Phrase (Expr.grouped needed cs) (groupedKinds needed ks) := by
  cases needed with
  | true => exact h.group
  | false => exact h

theorem Phrase.call (hname : IsFunctionName name) (h : cs = [] ∧ ks = [] ∨ Phrase cs ks) :
    Phrase (name.toList ++ '(' :: cs ++ [')'])
      (.name name :: .openParen :: ks ++ [.closeParen]) := by
  refine ⟨?_, fun {gap tail ks'} hgap _ _ htail => ?_⟩
  · obtain ⟨d, hd, hne⟩ := head_of_isWord (hname.readsAs []) rfl
    refine ⟨d, ?_, hne⟩
    rw [List.append_assoc]
    exact List.mem_head?_append_of_mem_head? hd
  · have hcall := Lexed.token hgap (hname.readsAs _) (lexed_enclosed allBlank_nil h htail)
    simpa using hcall

theorem isFunctionName_truthName (b : Bool) : IsFunctionName (truthName b) := by
  cases b with
  | true => exact ⟨⟨'T', rfl, .inl rfl⟩, List.all_eq_true.mp rfl⟩
  | false => exact ⟨⟨'F', rfl, .inl rfl⟩, List.all_eq_true.mp rfl⟩

theorem Phrase.boolean (b : Bool) : Phrase (truthName b).toList [.name (truthName b)] := by
  obtain ⟨c, rest, hword, hstarts, hrun⟩ := (isFunctionName_truthName b).word
  have hshape : looksLikeCell (truthName b).toList = false := by cases b <;> decide
  refine .word rfl fun tail hstop hcall => ?_
  rw [hword] at hshape
  have hread := readsAs_bareName hstarts hrun hshape hstop hcall
  rwa [← hword, String.ofList_toList] at hread

theorem Phrase.arguments {e : Expr} {es : List Expr}
    (h : ∀ e' ∈ e :: es, Phrase e'.chars e'.kinds) : Phrase (Expr.charsOfArgs (e :: es))
      ([TokenKind.comma].intercalate ((e :: es).map Expr.kinds)) := by
  rw [Expr.charsOfArgs_cons, List.map_cons, Language.intercalate_cons]
  induction es generalizing e with
  | nil => simpa using h
  | cons e' es ih =>
    obtain ⟨he, hes⟩ := List.forall_mem_cons.mp h
    have hjoined := Phrase.joined (k := .comma) (m := [',']) rfl rfl he (ih hes)
    simpa using hjoined

theorem Phrase.operator (op : Operator) {cl cr : List Char} {kl kr : List TokenKind}
    (hl : Phrase cl kl) (hr : Phrase cr kr) :
    Phrase (cl ++ op.symbol.toList ++ cr) (kl ++ op.token :: kr) := by
  have hmark : op.token.mark? = some op.symbol.toList ∧ op.token.closes = true := by
    cases op <;> exact ⟨rfl, rfl⟩
  rw [List.append_assoc]
  exact hl.joined hmark.1 hmark.2 hr

/-- An address by itself is a proper corner. -/
theorem proper_address {a : CellRef} (ha : a.onGrid = true) :
    Corner.Proper ⟨optionalPrefix none, none, a⟩ :=
  ⟨ha, fun _ ha' _ hstop hcall => readsAs_address ha' hstop hcall⟩

/-- An address as it is written behind the name of its sheet is a proper corner. -/
theorem proper_optionalPrefix {sheet : Option String} (hsheet : ∀ name ∈ sheet, Prefixes name)
    {a : CellRef} (ha : a.onGrid = true) : Corner.Proper ⟨optionalPrefix sheet, sheet, a⟩ := by
  cases sheet with
  | none => exact proper_address ha
  | some name => exact (hsheet name rfl).proper ha

/-- **The text of a written tree is cut into the tokens that were written.** -/
theorem Expr.Printable.phrase {e : Expr} (h : e.Printable) : Phrase e.chars e.kinds := by
  induction h with
  | number hk =>
    rw [Expr.chars, showNumber_ofNat hk]
    exact .word rfl fun tail hstop _ => readsAs_natural (by omega) hstop
  | text s => exact .word rfl fun tail hstop _ => readsAs_text s hstop
  | boolean b => exact .boolean b
  | error he => exact .word rfl fun tail _ _ => readsAs_error he tail
  | cell hsheet ha => exact (proper_optionalPrefix hsheet ha).phrase ha
  | range hsheet hstart hstop =>
    exact (proper_optionalPrefix hsheet hstart).phrase_pair (proper_address hstop) hstart hstop
  | binary op _ _ ihleft ihright => exact .operator op ihleft.grouped ihright.grouped
  | @call name args hname hargs ih =>
    rw [Expr.chars, Expr.kinds_call]
    refine .call hname ?_
    cases args with
    | nil => exact .inl ⟨rfl, rfl⟩
    | cons e es => exact .inr (.arguments ih)

end Phrases

/-! ## 4. The derivation of a written tree -/

/-- The level of an operator. -/
def Operator.level (op : Operator) : Level :=
  match op.strength with
  | 1 => .comparison
  | 2 => .join
  | 3 => .sum
  | _ => .product

/-- How strongly the outermost part of a tree holds together. -/
def Expr.strength : Expr → Nat
  | .binary op _ _ => op.strength
  | .range _ _ => 5
  | _ => 6

section Derivations

variable {n : Nat} {level level' : Level} {ks : List TokenKind} {e : Expr} {op : Operator}

theorem Operator.level_spec (op : Operator) :
    op.level.operatorOf op.token = some op ∧ op.level.strength = op.strength ∧
      op.level.tighter.strength = op.strength + 1 ∧ op.level ≠ .openCall ∧
      op.level.tighter ≠ .openCall := by
  cases op <;> decide

theorem Operator.strength_bounds (op : Operator) : 1 ≤ op.strength ∧ op.strength ≤ 4 := by
  cases op <;> decide

theorem Level.eq_of_strength (h : level ≠ .openCall) (h' : level' ≠ .openCall)
    (heq : level.strength = level'.strength) : level = level' := by
  cases level <;> cases level' <;> first | rfl | contradiction

theorem Level.strength_tighter (level : Level) (h : level.strength < 6) :
    level.tighter.strength = level.strength + 1 ∧ level.tighter ≠ .openCall := by
  cases level <;> first | decide | exact absurd h (by decide)

theorem Expr.one_le_strength (e : Expr) : 1 ≤ e.strength := by
  cases e with
  | binary op _ _ => exact op.strength_bounds.1
  | _ => simp [Expr.strength]

theorem Level.strength_le (level : Level) : level.strength ≤ 6 := by
  cases level <;> decide

/-- What is derived at a level is derived at all levels that bind more weakly. -/
theorem Derives.loosen (h : Derives n level ks e) (hlevel : level ≠ .openCall)
    (hlevel' : level' ≠ .openCall) (hle : level'.strength ≤ level.strength) :
    Derives n level' ks e := by
  induction hgap : level.strength - level'.strength generalizing level' with
  | zero =>
    rw [← Level.eq_of_strength hlevel hlevel' (by omega)]
    exact h
  | succ d ih =>
    have hmax := level.strength_le
    obtain ⟨hnext, hopen⟩ := level'.strength_tighter (by omega)
    exact .tighter (ih hopen (by omega) (by omega))

/-- An operand that needs no parentheses holds together strongly enough. -/
theorem strength_of_needsGroup {onRight : Bool} (h : Expr.needsGroup op onRight e = false) :
    op.strength + onRight.toNat ≤ e.strength := by
  have hop := op.strength_bounds.2
  have hright := Bool.toNat_le onRight
  cases e with
  | binary op' left right =>
    simp only [Expr.needsGroup, Bool.or_eq_false_iff, decide_eq_false_iff_not,
      Bool.and_eq_false_iff, beq_eq_false_iff_ne] at h
    rw [Expr.strength]
    cases onRight with
    | false => exact Nat.not_lt.mp h.1
    | true =>
      have hne := h.2.resolve_left (by decide)
      rw [Bool.toNat_true]
      omega
  | _ =>
    simp only [Expr.strength]
    omega

/-- An operand is derived where it stands, with parentheses if it needs them. -/
theorem derives_groupedKinds (onRight : Bool) (hlevel : level ≠ .openCall)
    (hle : level.strength ≤ op.strength + onRight.toNat)
    (hn : e.nesting + (Expr.needsGroup op onRight e).toNat ≤ n)
    (h : ∀ n, e.nesting ≤ n → ∀ level : Level, level ≠ .openCall → level.strength ≤ e.strength →
      Derives n level e.kinds e) :
    Derives n level (groupedKinds (Expr.needsGroup op onRight e) e.kinds) e := by
  cases hgroup : Expr.needsGroup op onRight e with
  | false =>
    rw [hgroup] at hn
    exact h n hn level hlevel (Nat.le_trans hle (strength_of_needsGroup hgroup))
  | true =>
    rw [hgroup, Bool.toNat_true] at hn
    obtain ⟨m, rfl⟩ : ∃ m, n = m + 1 := ⟨n - 1, by omega⟩
    have hinside := h m (by omega) .comparison (by decide) e.one_le_strength
    exact (Derives.group hinside).loosen (by decide) hlevel level.strength_le

theorem derives_call {name : String} {args : List Expr} (hname : capitals name = name)
    (h : ∀ e ∈ args, Derives n .comparison e.kinds e) :
    Derives (n + 1) .operand (Expr.call name args).kinds (.call name args) := by
  refine Language.Called.derives (fun ks e (h : Derives n .comparison ks e) => h) ?_
  refine ⟨name, _, args, ⟨args.map fun e => (e.kinds, e), ?_, ?_, ?_⟩, rfl, by rw [hname]⟩
  · rintro part hpart
    obtain ⟨e, he, rfl⟩ := List.mem_map.mp hpart
    exact h e he
  · rw [Expr.kindsOfArgs_eq, List.map_map]
    rfl
  · rw [List.map_map]
    exact (List.map_id args).symm

/-- **The tokens of a written tree derive the tree**, at every level that binds no more strongly
    than the tree. -/
theorem Expr.Printable.derives (h : e.Printable) : ∀ n, e.nesting ≤ n → ∀ level : Level,
    level ≠ .openCall → level.strength ≤ e.strength → Derives n level e.kinds e := by
  induction h with
  | number hk => exact fun n _ level hlevel hle => (Derives.number _).loosen (by decide) hlevel hle
  | text s => exact fun n _ level hlevel hle => (Derives.text s).loosen (by decide) hlevel hle
  | boolean b =>
    intro n _ level hlevel hle
    have htruth : truthOf? (truthName b) = some b := by cases b <;> decide
    exact (Derives.boolean htruth).loosen (by decide) hlevel hle
  | error he => exact fun n _ level hlevel hle => (Derives.error _).loosen (by decide) hlevel hle
  | cell _ _ => exact fun n _ level hlevel hle => (Derives.cell _ _).loosen (by decide) hlevel hle
  | @range sheet r _ _ _ =>
    intro n _ level hlevel hle
    have hrange : Derives n .range (Expr.range sheet r).kinds (.range sheet r) :=
      .range (.cell sheet r.start) rfl
    exact hrange.loosen (by decide) hlevel hle
  | binary op _ _ ihleft ihright =>
    intro n hn level hlevel hle
    obtain ⟨htoken, hstrength, htighter, hopen, hopen'⟩ := op.level_spec
    rw [Expr.nesting, Nat.max_le] at hn
    have hbinary := Derives.binary htoken
      (derives_groupedKinds false hopen (by simp [hstrength]) hn.1 ihleft)
      (derives_groupedKinds true hopen' (by simp [htighter]) hn.2 ihright)
    exact hbinary.loosen hopen hlevel (hstrength ▸ hle)
  | @call name args hname _ ih =>
    intro n hn level hlevel hle
    rw [Expr.nesting] at hn
    obtain ⟨m, rfl⟩ : ∃ m, n = m + 1 := ⟨n - 1, by omega⟩
    refine (derives_call hname.capitals_eq fun e he => ?_).loosen (by decide) hlevel hle
    have hdeep := Expr.nesting_le_of_mem he
    exact ih e he m (by omega) .comparison (by decide) e.one_le_strength

end Derivations

/-! ## 5. Reading back -/

/-- **A written formula is read back as the tree it was written for**, without a diagnostic, unless
    its parentheses nest too deeply or it has too many operators. -/
theorem parseFormula_render {e : Expr} (h : e.Printable) (hnesting : e.nesting ≤ maxNesting)
    (hcount : e.operatorCount ≤ maxOperators) :
    parseFormula ("=" ++ e.render) = ⟨some e, []⟩ := by
  have hderives := h.derives maxNesting hnesting .comparison (by decide) e.one_le_strength
  have htext : ("=" ++ e.render).toList = '=' :: e.chars := by simp [Expr.render]
  have htail : Lexed (e.chars ++ []) (e.kinds ++ []) :=
    h.phrase.lexed allBlank_nil (fun _ h => nomatch h) (fun _ h => nomatch h)
      (.finish allBlank_nil)
  have hall : Lexed ('=' :: e.chars) (.equals :: e.kinds) := by
    have hlexed := Lexed.token (k := .equals) allBlank_nil ⟨'=', [], rfl, by decide, rfl⟩ htail
    simpa using hlexed
  refine parseFormula_of_derives ?_ hderives (hderives.opCount_eq ▸ hcount)
  rw [htext]
  exact lexed_iff.mp hall

/-- Parentheses on either side, doubled quotes, the name of a sheet in apostrophes, a range with its
    corners exchanged and a call. -/
theorem parseFormula_render_mixed : parseFormula ("=" ++ Expr.render
    (.binary .multiply
      (.binary .subtract (.number (Float.ofNat 7))
        (.binary .add (.text "a\"b") (.cell (some "My Sheet") ⟨0, 0, true, false⟩)))
      (.call "SUM" [.range none ⟨⟨1, 1, false, false⟩, ⟨0, 0, false, true⟩⟩, .boolean true,
        .error .divZero]))) =
    ⟨some (.binary .multiply
      (.binary .subtract (.number (Float.ofNat 7))
        (.binary .add (.text "a\"b") (.cell (some "My Sheet") ⟨0, 0, true, false⟩)))
      (.call "SUM" [.range none ⟨⟨1, 1, false, false⟩, ⟨0, 0, false, true⟩⟩, .boolean true,
        .error .divZero])), []⟩ := by
  refine parseFormula_render (.binary _ (.binary _ (.number (by decide))
    (.binary _ (.text _) (.cell ?_ (by decide)))) (.call ?_ ?_)) (by decide) (by decide)
  · rintro name ⟨⟩
    exact .inr ⟨' ', by decide, by decide⟩
  · exact ⟨⟨'S', rfl, .inl rfl⟩, List.all_eq_true.mp rfl⟩
  · simp only [List.forall_mem_cons]
    exact ⟨.range nofun (by decide) (by decide), .boolean true, .error (by decide), by simp⟩

end Gridcalc
