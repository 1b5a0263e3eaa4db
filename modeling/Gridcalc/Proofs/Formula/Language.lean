import Gridcalc.Proofs.Formula.Recognised
import Mathlib.Data.List.Flatten

/-!
# The language of formulas

The grammar as a manual prints it: an expression is a comparison, a comparison is operands of the
next level with comparison signs between them, and so on down to single operands. Nothing in it
looks at how formulas are read.

* `Chained`: operands of a level with the operators of the level between them, from the left;
* `Ranged`, `Single`, `Grouped`, `Called`, `Operand`, `Expression`: the language;
* `expression_iff_derives`: the language is what the rules of reading derive;
* `IsFormula`, `parseFormula_accepts_language`: **the formulas that are read without a diagnostic
  are those of the language, each with the one tree that the language gives it**.
-/

namespace Gridcalc

/-! ## 1. The language -/

/-- The token of an operator. -/
def Operator.token : Operator → TokenKind
  | .add => .plus
  | .subtract => .minus
  | .multiply => .star
  | .divide => .slash
  | .concat => .ampersand
  | .equal => .equals
  | .notEqual => .notEqual
  | .less => .less
  | .lessEqual => .lessEqual
  | .greater => .greater
  | .greaterEqual => .greaterEqual

namespace Language

/-- Which tokens form which trees. -/
abbrev Form := List TokenKind → Expr → Prop

/-- An operator and its right operand. -/
structure Link where
  operator : Operator
  kinds : List TokenKind
  operand : Expr

/-- The tokens of an operator and its right operand. -/
def Link.tokens (link : Link) : List TokenKind := link.operator.token :: link.kinds

/-- A tree with a further operator and right operand. -/
def extend (left : Expr) (link : Link) : Expr := .binary link.operator left link.operand

/-- `item (operator item)*`, with the tree that associates to the left. -/
def Chained (operators : List Operator) (item : Form) : Form := fun ks e =>
  ∃ (first : List TokenKind) (left : Expr) (links : List Link), item first left ∧
    (∀ link ∈ links, link.operator ∈ operators ∧ item link.kinds link.operand) ∧
    ks = first ++ links.flatMap Link.tokens ∧ e = links.foldl extend left

/-- The address of a cell in so many pairs of parentheses. -/
def wrapped (depth : Nat) (sheet : Option String) (address : CellRef) : List TokenKind :=
  List.replicate depth .openParen ++ .cell sheet address :: List.replicate depth .closeParen

/-- Whether the second corner of a range may name what it names: no sheet, or the sheet that the
    first corner names. -/
def SameSheet (sheet sheet' : Option String) : Prop :=
  sheet' = none ∨ ∃ a b, sheet = some a ∧ sheet' = some b ∧ Text.sameIgnoringCase a b = true

/-- `operand | cell ':' CELL`, the first corner in at most `n` pairs of parentheses. -/
def Ranged (n : Nat) (operand : Form) : Form := fun ks e =>
  operand ks e ∨ ∃ depth sheet first sheet' second, depth ≤ n ∧ SameSheet sheet sheet' ∧
    ks = wrapped depth sheet first ++ [.colon, .cell sheet' second] ∧
    e = .range sheet ⟨first, second⟩

/-- A literal, a cell or a truth value. -/
inductive Single : Form
  | number (x : Float) : Single [.number x] (.number x)
  | text (s : String) : Single [.text s] (.text s)
  | error (e : ErrorValue) : Single [.error e] (.error e)
  | cell (sheet : Option String) (address : CellRef) :
      Single [.cell sheet address] (.cell sheet address)
  | isTrue {name : String} (h : Text.sameIgnoringCase name "TRUE" = true) :
      Single [.name name] (.boolean true)
  | isFalse {name : String} (h : Text.sameIgnoringCase name "FALSE" = true) :
      Single [.name name] (.boolean false)

/-- `'(' body ')'`, which leaves no trace in the tree. -/
def Grouped (body : Form) : Form := fun ks e =>
  ∃ inside, body inside e ∧ ks = .openParen :: inside ++ [.closeParen]

/-- `argument (',' argument)*`, or nothing. -/
def Arguments (argument : Form) (ks : List TokenKind) (args : List Expr) : Prop :=
  ∃ parts : List (List TokenKind × Expr), (∀ part ∈ parts, argument part.1 part.2) ∧
    ks = [TokenKind.comma].intercalate (parts.map Prod.fst) ∧ args = parts.map Prod.snd

/-- `name '(' [argument (',' argument)*] ')'`. -/
def Called (argument : Form) : Form := fun ks e =>
  ∃ name inside args, Arguments argument inside args ∧
    ks = .name name :: .openParen :: inside ++ [.closeParen] ∧ e = .call (capitals name) args

section Levels

variable (n : Nat) (operand : Form)

/-- `range (('*'|'/') range)*`. -/
def Product : Form := Chained [.multiply, .divide] (Ranged n operand)

/-- `product (('+'|'-') product)*`. -/
def Sum : Form := Chained [.add, .subtract] (Product n operand)

/-- `sum ('&' sum)*`. -/
def Join : Form := Chained [.concat] (Sum n operand)

/-- `join (('='|'<>'|'<'|'<='|'>'|'>=') join)*`. -/
def Comparison : Form :=
  Chained [.equal, .notEqual, .less, .lessEqual, .greater, .greaterEqual] (Join n operand)

end Levels

/-- A single operand with groups and calls nested at most so deeply. -/
def Operand : Nat → Form
  | 0 => Single
  | n + 1 => fun ks e => Single ks e ∨ Grouped (Comparison n (Operand n)) ks e ∨
      Called (Comparison n (Operand n)) ks e

/-- An expression with groups and calls nested at most so deeply. -/
def Expression (n : Nat) : Form := Comparison n (Operand n)

end Language

/-! ## 2. The language is derived -/

/-- The operators of a level. -/
def Level.operators : Level → List Operator
  | .comparison => [.equal, .notEqual, .less, .lessEqual, .greater, .greaterEqual]
  | .join => [.concat]
  | .sum => [.add, .subtract]
  | .product => [.multiply, .divide]
  | _ => []

namespace Language

section Derived

variable {n : Nat} {level : Level} {ks kl kr : List TokenKind} {k : TokenKind} {e l r : Expr}
  {op : Operator} {item : Form}

theorem operatorOf_eq_some_iff :
    level.operatorOf k = some op ↔ op ∈ level.operators ∧ k = op.token := by
  constructor
  · intro h
    cases level <;> cases k <;> cases h <;> decide
  · rintro ⟨h, rfl⟩
    cases level <;> cases op <;> first | rfl | exact absurd h (by decide)

theorem cornersAgree_iff {sheet sheet' : Option String} :
    cornersAgree sheet sheet' = true ↔ SameSheet sheet sheet' := by
  cases sheet <;> cases sheet' <;> simp [cornersAgree, SameSheet]

theorem intercalate_cons {α : Type} (sep x : List α) (xs : List (List α)) :
    sep.intercalate (x :: xs) = x ++ xs.flatMap (sep ++ ·) := by
  induction xs generalizing x with
  | nil => simp [List.intercalate]
  | cons y ys ih =>
    have hcons : sep.intercalate (x :: y :: ys) = x ++ (sep ++ sep.intercalate (y :: ys)) := by
      simp [List.intercalate, List.intersperse]
    rw [hcons, ih, List.flatMap_cons, List.append_assoc]

/-- Further operators and operands behind a derived one. -/
theorem derives_links (hitem : ∀ ks e, item ks e → Derives n level.tighter ks e)
    (links : List Link) (hl : Derives n level kl l)
    (h : ∀ link ∈ links, link.operator ∈ level.operators ∧ item link.kinds link.operand) :
    Derives n level (kl ++ links.flatMap Link.tokens) (links.foldl extend l) := by
  induction links generalizing kl l with
  | nil => simpa using hl
  | cons link links ih =>
    obtain ⟨⟨hop, hright⟩, hrest⟩ := List.forall_mem_cons.mp h
    have hbinary : Derives n level (kl ++ link.tokens) (extend l link) :=
      .binary (operatorOf_eq_some_iff.mpr ⟨hop, rfl⟩) hl (hitem _ _ hright)
    have hall := ih hbinary hrest
    rwa [List.append_assoc, ← List.flatMap_cons] at hall

theorem Chained.derives (level : Level)
    (hitem : ∀ ks e, item ks e → Derives n level.tighter ks e)
    (h : Chained level.operators item ks e) : Derives n level ks e := by
  obtain ⟨first, left, links, hfirst, hlinks, rfl, rfl⟩ := h
  exact derives_links hitem links (.tighter (hitem _ _ hfirst)) hlinks

theorem wrapped_succ (depth : Nat) (sheet : Option String) (address : CellRef) :
    wrapped (depth + 1) sheet address =
      .openParen :: wrapped depth sheet address ++ [.closeParen] := by
  rw [wrapped, wrapped, List.replicate_succ, List.replicate_succ']
  simp

/-- An operand is an expression. -/
theorem derives_of_operand (h : Derives n .operand ks e) : Derives n .comparison ks e :=
  .tighter (.tighter (.tighter (.tighter (.tighter h))))

theorem derives_wrapped {depth : Nat} (h : depth ≤ n) (sheet : Option String) (address : CellRef) :
    Derives n .operand (wrapped depth sheet address) (.cell sheet address) := by
  induction depth generalizing n with
  | zero => exact .cell sheet address
  | succ depth ih =>
    obtain ⟨m, rfl⟩ : ∃ m, n = m + 1 := ⟨n - 1, by omega⟩
    rw [wrapped_succ]
    exact .group (derives_of_operand (ih (by omega)))

theorem Ranged.derives (hoperand : ∀ ks e, item ks e → Derives n .operand ks e)
    (h : Ranged n item ks e) : Derives n .range ks e := by
  rcases h with h | ⟨depth, sheet, first, sheet', second, hdepth, hsame, rfl, rfl⟩
  · exact .tighter (hoperand _ _ h)
  · exact .range (derives_wrapped hdepth sheet first) (cornersAgree_iff.mpr hsame)

theorem Single.derives (h : Single ks e) : Derives n .operand ks e := by
  cases h with
  | number x => exact .number x
  | text s => exact .text s
  | error e => exact .error e
  | cell sheet address => exact .cell sheet address
  | isTrue h => exact .boolean (by rw [truthOf?, if_pos h])
  | isFalse h =>
    refine .boolean ?_
    rw [truthOf?, if_neg, if_pos h]
    intro htrue
    rw [Text.sameIgnoringCase_comm] at htrue
    exact absurd (Text.sameIgnoringCase_trans htrue h) (by decide)

theorem Comparison.derives (hoperand : ∀ ks e, item ks e → Derives n .operand ks e)
    (h : Comparison n item ks e) : Derives n .comparison ks e :=
  Chained.derives .comparison
    (fun _ _ => Chained.derives .join
      fun _ _ => Chained.derives .sum
        fun _ _ => Chained.derives .product fun _ _ => Ranged.derives hoperand) h

/-- Further arguments behind an open call. -/
theorem derives_arguments {f : String} {args : List Expr}
    (hitem : ∀ ks e, item ks e → Derives n .comparison ks e)
    (parts : List (List TokenKind × Expr)) (hopen : Derives (n + 1) .openCall ks (.call f args))
    (h : ∀ part ∈ parts, item part.1 part.2) :
    Derives (n + 1) .openCall (ks ++ (parts.map Prod.fst).flatMap ([.comma] ++ ·))
      (.call f (args ++ parts.map Prod.snd)) := by
  induction parts generalizing ks args with
  | nil => simpa using hopen
  | cons part parts ih =>
    obtain ⟨hpart, hrest⟩ := List.forall_mem_cons.mp h
    have hall := ih (.nextArgument hopen (hitem _ _ hpart)) hrest
    simpa using hall

theorem Called.derives (hitem : ∀ ks e, item ks e → Derives n .comparison ks e)
    (h : Called item ks e) : Derives (n + 1) .operand ks e := by
  obtain ⟨name, inside, args, ⟨parts, hparts, rfl, rfl⟩, rfl, rfl⟩ := h
  cases parts with
  | nil => exact .emptyCall name
  | cons part parts =>
    obtain ⟨hpart, hrest⟩ := List.forall_mem_cons.mp hparts
    have hopen := derives_arguments hitem parts (.firstArgument name (hitem _ _ hpart)) hrest
    rw [List.map_cons, intercalate_cons]
    exact .call hopen

theorem Operand.derives (h : Operand n ks e) : Derives n .operand ks e := by
  induction n generalizing ks e with
  | zero => exact Single.derives h
  | succ n ih =>
    have hbody : ∀ ks e, Comparison n (Operand n) ks e → Derives n .comparison ks e :=
      fun _ _ => Comparison.derives fun _ _ => ih
    rcases h with h | ⟨inside, hinside, rfl⟩ | h
    · exact Single.derives h
    · exact .group (hbody _ _ hinside)
    · exact Called.derives hbody h

end Derived

/-! ## 3. What is derived is of the language -/

/-- A call up to the end of its last argument. -/
def Opened (n : Nat) : Form := fun ks e =>
  ∃ m, n = m + 1 ∧ ∃ name inside args, Arguments (Expression m) inside args ∧ args ≠ [] ∧
    ks = .name name :: .openParen :: inside ∧ e = .call (capitals name) args

end Language

open Gridcalc.Language in
/-- What the language has for a level. -/
def Level.form (n : Nat) : Level → Form
  | .comparison => Expression n
  | .join => Join n (Operand n)
  | .sum => Sum n (Operand n)
  | .product => Product n (Operand n)
  | .range => Ranged n (Operand n)
  | .operand => Operand n
  | .openCall => Opened n

namespace Language

section Recognised

variable {n : Nat} {level : Level} {ks kl kr : List TokenKind} {k : TokenKind} {e l r : Expr}
  {op : Operator} {operators : List Operator} {item : Form}

theorem form_eq_chained (h : level.strength ≤ 4) :
    level.form n = Chained level.operators (level.tighter.form n) := by
  cases level <;> first | rfl | exact absurd h (by decide)

theorem Chained.one (h : item ks e) : Chained operators item ks e :=
  ⟨ks, e, [], h, fun _ hlink => absurd hlink List.not_mem_nil, by simp, rfl⟩

theorem Chained.snoc (hl : Chained operators item kl l) (hop : op ∈ operators) (hr : item kr r) :
    Chained operators item (kl ++ op.token :: kr) (.binary op l r) := by
  obtain ⟨first, left, links, hfirst, hlinks, rfl, rfl⟩ := hl
  refine ⟨first, left, links ++ [⟨op, kr, r⟩], hfirst, ?_, ?_, ?_⟩
  · rw [List.forall_mem_append]
    exact ⟨hlinks, by simpa using ⟨hop, hr⟩⟩
  · simp [Link.tokens]
  · rw [List.foldl_append]
    rfl

/-- What stands between operators of a level is what the tree shows, unless the tree is one of
    their applications. -/
theorem Chained.item_of_ne (h : Chained operators item ks e)
    (hne : ∀ op l r, e ≠ .binary op l r) : item ks e := by
  obtain ⟨first, left, links, hfirst, -, rfl, he⟩ := h
  rcases List.eq_nil_or_concat links with rfl | ⟨links, link, rfl⟩
  · simpa [he] using hfirst
  · rw [List.concat_eq_append, List.foldl_append] at he
    exact absurd he (hne _ _ _)

theorem Expression.operand_of_cell {sheet : Option String} {address : CellRef}
    (h : Expression n ks (.cell sheet address)) : Operand n ks (.cell sheet address) := by
  have hrange : Ranged n (Operand n) ks (.cell sheet address) :=
    (((Chained.item_of_ne h nofun).item_of_ne nofun).item_of_ne nofun).item_of_ne nofun
  rcases hrange with h | ⟨_, _, _, _, _, -, -, -, he⟩
  · exact h
  · cases he

/-- An operand that is a cell is an address in parentheses. -/
theorem Operand.eq_wrapped {sheet : Option String} {address : CellRef}
    (h : Operand n ks (.cell sheet address)) : ∃ depth ≤ n, ks = wrapped depth sheet address := by
  induction n generalizing ks with
  | zero =>
    cases h
    exact ⟨0, Nat.le_refl _, rfl⟩
  | succ n ih =>
    rcases h with h | ⟨inside, hinside, rfl⟩ | ⟨_, _, _, -, -, he⟩
    · cases h
      exact ⟨0, Nat.zero_le _, rfl⟩
    · obtain ⟨depth, hdepth, rfl⟩ := ih (Expression.operand_of_cell hinside)
      refine ⟨depth + 1, Nat.succ_le_succ hdepth, ?_⟩
      rw [wrapped_succ]
    · cases he

theorem Operand.of_single (h : Single ks e) : Operand n ks e := by
  cases n with
  | zero => exact h
  | succ n => exact .inl h

/-- One more argument. -/
theorem Arguments.snoc {args : List Expr} (hargs : Arguments item kl args) (hne : args ≠ [])
    (h : item kr e) : Arguments item (kl ++ .comma :: kr) (args ++ [e]) := by
  obtain ⟨parts, hparts, rfl, rfl⟩ := hargs
  refine ⟨parts ++ [(kr, e)], ?_, ?_, by simp⟩
  · rw [List.forall_mem_append]
    exact ⟨hparts, by simpa using h⟩
  · cases parts with
    | nil => exact absurd rfl hne
    | cons part parts => simp [intercalate_cons]

theorem Arguments.single (h : item ks e) : Arguments item ks [e] :=
  ⟨[(ks, e)], by simpa using h, by simp [intercalate_cons], rfl⟩

theorem Single.of_truthOf? {name : String} {b : Bool} (h : truthOf? name = some b) :
    Single [.name name] (.boolean b) := by
  unfold truthOf? at h
  split at h
  · cases h
    exact .isTrue ‹_›
  · split at h
    · cases h
      exact .isFalse ‹_›
    · cases h

/-- What is derived at a level is what the language has for it. -/
theorem form_of_derives (h : Derives n level ks e) : level.form n ks e := by
  induction h with
  | @tighter n level ks e _ ih =>
    by_cases hlevel : level.strength ≤ 4
    · rw [form_eq_chained hlevel]
      exact .one ih
    · cases level with
      | range => exact .inl ih
      | operand => exact ih
      | openCall => exact ih
      | _ => exact absurd (by decide) hlevel
  | binary hop _ _ ihl ihr =>
    obtain ⟨-, -, -, hlevel⟩ := tightness_of_operatorOf hop
    obtain ⟨hmem, rfl⟩ := operatorOf_eq_some_iff.mp hop
    rw [form_eq_chained hlevel] at ihl ⊢
    exact ihl.snoc hmem ihr
  | range _ hagree ih =>
    obtain ⟨depth, hdepth, rfl⟩ := Operand.eq_wrapped ih
    exact .inr ⟨depth, _, _, _, _, hdepth, cornersAgree_iff.mp hagree, rfl, rfl⟩
  | number x => exact .of_single (.number x)
  | text s => exact .of_single (.text s)
  | error e => exact .of_single (.error e)
  | cell sheet address => exact .of_single (.cell sheet address)
  | boolean h => exact .of_single (.of_truthOf? h)
  | group _ ih => exact .inr (.inl ⟨_, ih, rfl⟩)
  | emptyCall name =>
    exact .inr (.inr ⟨name, [], [], ⟨[], fun _ h => absurd h List.not_mem_nil, rfl, rfl⟩, rfl, rfl⟩)
  | firstArgument name _ ih =>
    exact ⟨_, rfl, name, _, _, .single ih, List.cons_ne_nil _ _, rfl, rfl⟩
  | nextArgument _ _ ihcall ih =>
    obtain ⟨m, hm, name, inside, args, hargs, hne, rfl, he⟩ := ihcall
    cases hm
    cases he
    exact ⟨_, rfl, name, _, _, hargs.snoc hne ih, by simp, rfl, rfl⟩
  | call _ ih =>
    obtain ⟨m, rfl, name, inside, args, hargs, -, rfl, rfl⟩ := ih
    exact .inr (.inr ⟨name, inside, args, hargs, rfl, rfl⟩)

/-- **The language is what the rules of reading derive.** -/
theorem expression_iff_derives : Expression n ks e ↔ Derives n .comparison ks e :=
  ⟨Comparison.derives fun _ _ => Operand.derives, form_of_derives⟩

end Recognised

end Language

/-! ## 4. Formulas -/

namespace Expr

mutual

/-- How many operators there are in a tree. -/
def operatorCount : Expr → Nat
  | .binary _ left right => operatorCount left + 1 + operatorCount right
  | .call _ args => operatorCountOfArgs args
  | _ => 0

/-- How many operators there are in the arguments of a call. -/
def operatorCountOfArgs : List Expr → Nat
  | [] => 0
  | e :: es => operatorCount e + operatorCountOfArgs es

end

theorem operatorCountOfArgs_append (args args' : List Expr) :
    operatorCountOfArgs (args ++ args') = operatorCountOfArgs args + operatorCountOfArgs args' := by
  induction args with
  | nil => simp [operatorCountOfArgs]
  | cons e es ih => simp [operatorCountOfArgs, ih, Nat.add_assoc]

end Expr

section Formulas

variable {n : Nat} {level : Level} {ks ks' : List TokenKind} {e : Expr} {formula : String}

@[simp] theorem opCount_append (ks ks' : List TokenKind) :
    opCount (ks ++ ks') = opCount ks + opCount ks' :=
  List.countP_append

/-- The operators of a formula are those of its tree. -/
theorem Derives.opCount_eq (h : Derives n level ks e) : opCount ks = e.operatorCount := by
  induction h with
  | tighter _ ih => exact ih
  | binary hop _ _ ihl ihr =>
    obtain ⟨-, hoperator, -, -⟩ := tightness_of_operatorOf hop
    rw [opCount_append, ihl, opCount, List.countP_cons_of_pos hoperator, ← opCount, ihr,
      Expr.operatorCount]
    omega
  | range _ _ ih => rw [opCount_append, ih]; rfl
  | group _ ih => rw [opCount_append]; exact ih
  | firstArgument name _ ih => exact ih
  | nextArgument _ _ ihcall ih =>
    rw [opCount_append, ihcall, Expr.operatorCount, Expr.operatorCount,
      Expr.operatorCountOfArgs_append]
    exact congrArg _ ih
  | call _ ih => rw [opCount_append]; exact ih
  | _ => rfl

/-- The text is a formula of the language with this tree: an equals sign, an expression and the
    end, with groups and calls nested not too deeply and not too many operators. -/
def IsFormula (formula : String) (e : Expr) : Prop :=
  ∃ ks, (tokenize formula).map Token.kind = .equals :: ks ++ [.finish] ∧
    Language.Expression maxNesting ks e ∧ e.operatorCount ≤ maxOperators

theorem isFormula_iff : IsFormula formula e ↔ parseFormula formula = ⟨some e, []⟩ := by
  rw [parseFormula_eq_iff]
  refine exists_congr fun ks => ?_
  rw [kinds_tokenize, List.append_left_inj, Language.expression_iff_derives]
  exact and_congr_right fun _ => and_congr_right fun h => by rw [h.opCount_eq]

/-- **Reading accepts exactly the language.** A text is read without a diagnostic exactly if it is a
    formula of the language, and the tree that is read is then the only one that the language gives
    it. -/
theorem parseFormula_accepts_language (formula : String) :
    ((parseFormula formula).isOk = true ↔ ∃ e, IsFormula formula e) ∧
      ∀ e, parseFormula formula = ⟨some e, []⟩ ↔
        IsFormula formula e ∧ ∀ e', IsFormula formula e' → e' = e := by
  constructor
  · simp only [isFormula_iff]
    obtain ⟨root, diagnostics⟩ := parseFormula formula
    cases root <;> simp [ParsedFormula.isOk]
  · intro e
    simp only [isFormula_iff]
    constructor
    · intro h
      refine ⟨h, fun e' h' => ?_⟩
      simpa [h] using h'.symm
    · exact And.left

end Formulas

end Gridcalc
