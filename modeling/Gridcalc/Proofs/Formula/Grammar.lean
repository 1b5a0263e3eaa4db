import Gridcalc.Formula.Parse
import Gridcalc.Proofs.Formula.Lexemes

/-!
# The grammar of formulas

Which tokens form a formula, and with which tree; and the states of a reader between them.

* `Derives`: tokens that form a tree of a level, with groups and calls nested at most so deeply;
* `levelParser`: the reader of a level;
* `ParseState.past`: the state behind tokens;
* `ParseState.Quiet`, `ParseState.Loud`: nothing has gone wrong, or something has.
-/

namespace Gridcalc

/-! ## 1. The grammar -/

/-- The levels of formulas, from the weakest binding to the strongest; `openCall` is a call up to
    the end of its last argument. -/
inductive Level where
  | comparison | join | sum | product | range | operand | openCall
  deriving DecidableEq, Repr

namespace Level

/-- The operators of a level. -/
def operatorOf : Level → TokenKind → Option Operator
  | .comparison => comparisonOf
  | .join => joinOf
  | .sum => sumOf
  | .product => productOf
  | _ => fun _ => none

/-- The level of the operands of a level. -/
def tighter : Level → Level
  | .comparison => .join
  | .join => .sum
  | .sum => .product
  | .product => .range
  | .range => .operand
  | level => level

/-- How strongly a level binds. -/
def strength : Level → Nat
  | .comparison => 1
  | .join => 2
  | .sum => 3
  | .product => 4
  | .range => 5
  | _ => 6

end Level

/-- The truth value that a name stands for. -/
def truthOf? (name : String) : Option Bool :=
  if Text.sameIgnoringCase name "TRUE" then some true
  else if Text.sameIgnoringCase name "FALSE" then some false
  else none

/-- The name of a function as a tree holds it. -/
def capitals (name : String) : String := String.ofList (Text.uppercase name.toList)

/-- Tokens that form a tree of a level, with groups and calls nested at most `n` deep. -/
inductive Derives : Nat → Level → List TokenKind → Expr → Prop
  | tighter {n level ks e} (h : Derives n level.tighter ks e) : Derives n level ks e
  | binary {n level kl kr k op l r} (hop : level.operatorOf k = some op)
      (hl : Derives n level kl l) (hr : Derives n level.tighter kr r) :
      Derives n level (kl ++ k :: kr) (.binary op l r)
  | range {n ks sheet first sheet' second} (h : Derives n .operand ks (.cell sheet first))
      (hagree : cornersAgree sheet sheet' = true) :
      Derives n .range (ks ++ [.colon, .cell sheet' second]) (.range sheet ⟨first, second⟩)
  | number {n} (x : Float) : Derives n .operand [.number x] (.number x)
  | text {n} (s : String) : Derives n .operand [.text s] (.text s)
  | error {n} (e : ErrorValue) : Derives n .operand [.error e] (.error e)
  | cell {n} (sheet : Option String) (address : CellRef) :
      Derives n .operand [.cell sheet address] (.cell sheet address)
  | boolean {n name b} (h : truthOf? name = some b) : Derives n .operand [.name name] (.boolean b)
  | group {n ks e} (h : Derives n .comparison ks e) :
      Derives (n + 1) .operand (.openParen :: ks ++ [.closeParen]) e
  | emptyCall {n} (name : String) :
      Derives (n + 1) .operand [.name name, .openParen, .closeParen] (.call (capitals name) [])
  | firstArgument {n ks e} (name : String) (h : Derives n .comparison ks e) :
      Derives (n + 1) .openCall (.name name :: .openParen :: ks) (.call (capitals name) [e])
  | nextArgument {n f args ks ks' e} (hcall : Derives (n + 1) .openCall ks (.call f args))
      (h : Derives n .comparison ks' e) :
      Derives (n + 1) .openCall (ks ++ .comma :: ks') (.call f (args ++ [e]))
  | call {n ks e} (h : Derives n .openCall ks e) : Derives n .operand (ks ++ [.closeParen]) e

/-- The reader of a level over a reader of operands. -/
def levelParser (operand : Parser) : Level → Parser
  | .comparison => expression operand
  | .join => chain joinOf (chain sumOf (chain productOf (ranged operand)))
  | .sum => chain sumOf (chain productOf (ranged operand))
  | .product => chain productOf (ranged operand)
  | .range => ranged operand
  | _ => operand

namespace TokenKind

/-- Whether a token stands for an operator. -/
def isOperator (k : TokenKind) : Bool :=
  [comparisonOf, joinOf, sumOf, productOf].any fun operatorOf => (operatorOf k).isSome

/-- How strongly a token binds what stands in front of it: not at all where an expression ends. -/
def tightness : TokenKind → Nat
  | .finish | .comma | .closeParen => 0
  | .equals | .notEqual | .less | .lessEqual | .greater | .greaterEqual => 1
  | .ampersand => 2
  | .plus | .minus => 3
  | .star | .slash => 4
  | .colon => 5
  | _ => 6

end TokenKind

section Levels

variable {level : Level} {k : TokenKind} {op : Operator}

theorem tightness_of_operatorOf (h : level.operatorOf k = some op) :
    k.tightness = level.strength ∧ k.isOperator = true ∧ k ≠ .finish ∧ level.strength ≤ 4 := by
  cases level <;> cases k <;> cases h <;> decide

theorem operatorOf_eq_none (h : k.tightness < level.strength) : level.operatorOf k = none := by
  cases hop : level.operatorOf k with
  | none => rfl
  | some op =>
    have := (tightness_of_operatorOf hop).1
    omega

end Levels

/-- How many operators there are. -/
def opCount (ks : List TokenKind) : Nat := ks.countP TokenKind.isOperator

/-! ## 2. States -/

namespace ParseState

/-- The kinds of the tokens that are left. -/
def kinds (s : ParseState) : List TokenKind := s.rest.map Token.kind

/-- The state behind tokens of these kinds. -/
def past (s : ParseState) (ks : List TokenKind) : ParseState :=
  { s with rest := s.rest.drop ks.length, operators := s.operators + opCount ks }

/-- Nothing has gone wrong. -/
structure Quiet (s : ParseState) : Prop where
  diagnostics : s.diagnostics = []
  reported : s.reported = none
  finish : s.finish.kind = .finish
  operators : s.operators ≤ maxOperators

/-- Something has gone wrong. -/
def Loud (s : ParseState) : Prop := s.diagnostics ≠ []

variable {s : ParseState} {k : TokenKind} {ks ks' : List TokenKind} {fault : ParseFault}

@[simp] theorem past_nil (s : ParseState) : s.past [] = s := rfl

theorem past_past (s : ParseState) (ks ks' : List TokenKind) :
    (s.past ks).past ks' = s.past (ks ++ ks') := by
  simp only [past, opCount, List.drop_drop, List.length_append, List.countP_append, Nat.add_assoc]

theorem kinds_past (s : ParseState) (ks : List TokenKind) :
    (s.past ks).kinds = s.kinds.drop ks.length := by
  simp only [kinds, past, List.map_drop]

theorem consume_eq_past (hk : k.isOperator = false) (s : ParseState) : s.consume = s.past [k] := by
  simp [consume, past, opCount, hk]

theorem passOperator_eq_past (hk : k.isOperator = true) (s : ParseState) :
    s.passOperator = s.past [k] := by
  simp [passOperator, consume, past, opCount, hk]

theorem current_eq (s : ParseState) : s.current = s.kinds.headD s.finish.kind := by
  unfold current head kinds
  cases s.rest <;> rfl

theorem current_of_prefix (h : k :: ks <+: s.kinds) : s.current = k := by
  obtain ⟨rest, hrest⟩ := h
  rw [current_eq, ← hrest]
  rfl

theorem prefix_of_current (h : s.Quiet) (hk : s.current = k) (hne : k ≠ .finish) :
    [k] <+: s.kinds := by
  rw [current_eq] at hk
  cases hs : s.kinds with
  | nil =>
    rw [hs] at hk
    exact absurd (hk.symm.trans h.finish) hne
  | cons k' ks =>
    rw [hs] at hk
    cases hk
    exact ⟨ks, rfl⟩

/-- Tokens in front, and further ones behind them. -/
theorem prefix_append_iff : ks ++ ks' <+: s.kinds ↔ ks <+: s.kinds ∧ ks' <+: (s.past ks).kinds := by
  rw [kinds_past]
  constructor
  · rintro ⟨rest, hrest⟩
    rw [← hrest, List.append_assoc]
    exact ⟨List.prefix_append _ _, by rw [List.drop_left]; exact List.prefix_append _ _⟩
  · rintro ⟨⟨rest, hrest⟩, h⟩
    rw [← hrest, List.drop_left] at h
    rw [← hrest]
    exact List.prefix_append_right_inj ks |>.mpr h

theorem length_past_le (s : ParseState) (ks : List TokenKind) :
    (s.past ks).rest.length = s.rest.length - ks.length := by
  rw [past, List.length_drop]

theorem Quiet.consume (h : s.Quiet) : s.consume.Quiet :=
  ⟨h.diagnostics, h.reported, h.finish, h.operators⟩

/-- One more token behind those that have been read. -/
theorem Quiet.next (h : (s.past ks).Quiet) (hrun : ks <+: s.kinds) (hk : (s.past ks).current = k)
    (hop : k.isOperator = false) (hne : k ≠ .finish) :
    ks ++ [k] <+: s.kinds ∧ (s.past ks).consume = s.past (ks ++ [k]) ∧
      (s.past (ks ++ [k])).Quiet := by
  have hconsume : (s.past ks).consume = s.past (ks ++ [k]) := by
    rw [consume_eq_past hop, past_past]
  exact ⟨prefix_append_iff.mpr ⟨hrun, prefix_of_current h hk hne⟩, hconsume, hconsume ▸ h.consume⟩

/-- The first token. -/
theorem Quiet.first (h : s.Quiet) (hk : s.current = k) (hop : k.isOperator = false)
    (hne : k ≠ .finish) : [k] <+: s.kinds ∧ s.consume = s.past [k] ∧ (s.past [k]).Quiet := by
  rw [← past_nil s] at h hk
  exact h.next List.nil_prefix hk hop hne

theorem Quiet.passOperator (h : s.Quiet) (hmax : s.operators < maxOperators) :
    s.passOperator.Quiet :=
  ⟨h.diagnostics, h.reported, h.finish, hmax⟩

/-- With too few operators left for some tokens there are too few for more of them. -/
theorem Quiet.of_past (h : s.Quiet) (hp : (s.past (ks ++ ks')).Quiet) : (s.past ks).Quiet := by
  refine ⟨h.diagnostics, h.reported, h.finish, ?_⟩
  have := hp.operators
  simp only [past, opCount, List.countP_append] at this ⊢
  omega

theorem Quiet.loud_report (h : s.Quiet) (fault : ParseFault) : (s.report fault).Loud := by
  unfold report Loud
  rw [h.reported, if_neg (by simp)]
  simp

theorem Quiet.loud_abandon (h : s.Quiet) (fault : ParseFault) : (s.abandon fault).Loud :=
  h.loud_report fault

theorem Loud.consume (h : s.Loud) : s.consume.Loud := h

theorem Loud.skipArgument (h : s.Loud) : s.skipArgument.Loud := h

theorem Loud.passOperator (h : s.Loud) : s.passOperator.Loud := h

theorem Loud.report (h : s.Loud) (fault : ParseFault) : (s.report fault).Loud := by
  unfold ParseState.report
  split
  · exact h
  · exact List.append_ne_nil_of_left_ne_nil h _

theorem Loud.abandon (h : s.Loud) (fault : ParseFault) : (s.abandon fault).Loud :=
  h.report fault

end ParseState

end Gridcalc
