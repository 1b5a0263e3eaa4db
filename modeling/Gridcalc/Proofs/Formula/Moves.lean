import Gridcalc.Proofs.Formula.Recognised
import Mathlib.Logic.Relation

/-!
# Moves of a reader

The routines of the reader activate one another, and between them they only make a few kinds of
moves.

* `Move`, `Moved`: one move from a state to the next, and any number of them;
* `Activation`, `Activates`: a routine in the state in which it starts, and the routines that it
  starts in turn;
* `Activation.GivesUp`: a routine that leaves out the rest of the text;
* `moved_after`: **a routine makes moves only**, and the rest of the text is left out only where a
  routine gives up;
* `moved_of_activates`: **a routine moves on from where the routines that it starts have ended**.
-/

namespace Gridcalc

open ParseState Relation

/-! ## 1. Moves -/

/-- Whether the rest of the text is left out behind the fault. -/
def ParseFault.endsReading : ParseFault → Bool
  | .tooDeep | .tooManyOperators => true
  | _ => false

/-- A move of the reader. The rest of the text may be left out only in the given states, for the
    given faults. -/
inductive Move (leaves : ParseState → ParseFault → Prop) : ParseState → ParseState → Prop
  | consume (s : ParseState) : Move leaves s s.consume
  | report {s : ParseState} {fault : ParseFault} (h : fault.endsReading = false) :
      Move leaves s (s.report fault)
  | abandon {s : ParseState} {fault : ParseFault} (h : leaves s fault) :
      Move leaves s (s.abandon fault)
  | skipArgument (s : ParseState) : Move leaves s s.skipArgument
  | passOperator (s : ParseState) : Move leaves s s.passOperator

/-- Any number of moves. -/
abbrev Moved (leaves : ParseState → ParseFault → Prop) : ParseState → ParseState → Prop :=
  ReflTransGen (Move leaves)

section Moves

variable {leaves leaves' : ParseState → ParseFault → Prop} {s s' : ParseState} {p : Parser}

theorem Move.mono (hle : ∀ t fault, leaves t fault → leaves' t fault) (h : Move leaves s s') :
    Move leaves' s s' := by
  cases h with
  | consume => exact .consume s
  | report hfault => exact .report hfault
  | abandon hleaves => exact .abandon (hle _ _ hleaves)
  | skipArgument => exact .skipArgument s
  | passOperator => exact .passOperator s

theorem Moved.mono (hle : ∀ t fault, leaves t fault → leaves' t fault) (h : Moved leaves s s') :
    Moved leaves' s s' :=
  ReflTransGen.mono (fun (_ _ : ParseState) (hmove : Move leaves _ _) => hmove.mono hle) _ _ h

/-- Behind the first corner of a range. -/
theorem moved_ranged (p : Parser) (s : ParseState) : Moved leaves (p s).2 (ranged p s).2 := by
  unfold ranged
  split
  · rename_i s' hread
    rw [hread]
  · rename_i left s' hread
    rw [hread]
    dsimp only
    have hcolon : Moved leaves s' s'.consume := .single (.consume s')
    split
    · split
      · split
        · exact hcolon.tail (.consume _)
        · exact (hcolon.tail (.report rfl)).tail (.consume _)
      · exact hcolon.tail (.report rfl)
    · exact .single (.report rfl)
    · exact .refl

/-- Behind what stands in a group. -/
theorem moved_group (p : Parser) (s : ParseState) : Moved leaves (p s.consume).2 (group p s).2 := by
  unfold group
  dsimp only
  split
  · exact .single (.consume _)
  · exact .single (.report rfl)

theorem moved_bareName (name : String) (s : ParseState) :
    Moved leaves s (bareName name s).2 := by
  unfold bareName
  split
  · exact .single (.consume s)
  · split
    · exact .single (.consume s)
    · exact (ReflTransGen.single (.report rfl)).tail (.consume _)

/-- An operand, if moves are made where a group or a call begins. -/
theorem moved_operandWith {inner : Option Parser}
    (hgroup : s.current = .openParen → Moved leaves s (operandWith inner s).2)
    (hcall : ∀ name, s.current = .name name → opensCall s = true →
      Moved leaves s (operandWith inner s).2) :
    Moved leaves s (operandWith inner s).2 := by
  have hconsume : Moved leaves s s.consume := .single (.consume s)
  cases hcurrent : s.current with
  | openParen => exact hgroup hcurrent
  | name name =>
    by_cases hopen : opensCall s = true
    · exact hcall name hcurrent hopen
    · simp only [operandWith, hcurrent, if_neg hopen]
      exact moved_bareName name s
  | number | text | error | cell =>
    simp only [operandWith, hcurrent]
    exact hconsume
  | _ =>
    simp only [operandWith, hcurrent]
    exact .single (.report rfl)

end Moves

/-! ## 2. Activations -/

/-- The routines of the reader. -/
inductive Routine where
  | operand (depth : Nat)
  | level (depth : Nat) (level : Level)
  /-- Operators and right operands behind a left one. -/
  | operators (depth : Nat) (level : Level) (rounds : Nat) (left : Expr)
  /-- Further arguments of a call. -/
  | arguments (depth rounds : Nat) (args : List Expr)

/-- A routine in the state in which it starts. -/
structure Activation where
  routine : Routine
  state : ParseState

namespace Activation

/-- The state in which the routine ends. -/
def after : Activation → ParseState
  | ⟨.operand n, s⟩ => (operand n s).2
  | ⟨.level n level, s⟩ => (levelParser (operand n) level s).2
  | ⟨.operators n level rounds left, s⟩ =>
    (extendChain level.operatorOf (levelParser (operand n) level.tighter) rounds left s).2
  | ⟨.arguments n rounds args, s⟩ => (arguments (expression (operand n)) rounds args s).2

/-- The routine that reads a formula behind its equals sign. -/
def ofFormula (formula : String) : Activation :=
  ⟨.level maxNesting .comparison, (ParseState.ofChars formula.toList).consume⟩

/-- The routine leaves out the rest of the text, for a fault. -/
inductive GivesUp : Activation → ParseFault → Prop
  | operators {n level rounds left s op} (hop : Level.operatorOf level s.current = some op)
      (hfull : maxOperators ≤ s.operators) :
      GivesUp ⟨.operators n level (rounds + 1) left, s⟩ .tooManyOperators
  | group {s} (h : s.current = .openParen) : GivesUp ⟨.operand 0, s⟩ .tooDeep
  | call {s name} (hname : s.current = .name name) (hopen : opensCall s = true) :
      GivesUp ⟨.operand 0, s⟩ .tooDeep

end Activation

/-- The state behind an argument; a broken one is stepped over. -/
def behindArgument : Option Expr × ParseState → ParseState
  | (some _, s) => s
  | (none, s) => s.skipArgument

/-- The state in front of what ends an argument. -/
def ParseState.toSeparator (s : ParseState) : ParseState :=
  match s.current with
  | .comma | .closeParen | .finish => s
  | _ => (s.report .noSeparator).skipArgument

/-- One routine starts another one. -/
inductive Activates : Activation → Activation → Prop
  | operand {n level s} (h : 5 ≤ Level.strength level) :
      Activates ⟨.level n level, s⟩ ⟨.operand n, s⟩
  | first {n level s} (h : Level.strength level ≤ 4) :
      Activates ⟨.level n level, s⟩ ⟨.level n level.tighter, s⟩
  | operators {n level s s' left} (h : Level.strength level ≤ 4)
      (hread : levelParser (operand n) level.tighter s = (some left, s')) :
      Activates ⟨.level n level, s⟩ ⟨.operators n level s'.rest.length left, s'⟩
  | right {n level rounds left s op} (hop : Level.operatorOf level s.current = some op)
      (hroom : s.operators < maxOperators) :
      Activates ⟨.operators n level (rounds + 1) left, s⟩ ⟨.level n level.tighter, s.passOperator⟩
  | further {n level rounds left s op right s'} (hop : Level.operatorOf level s.current = some op)
      (hroom : s.operators < maxOperators)
      (hread : levelParser (operand n) level.tighter s.passOperator = (some right, s')) :
      Activates ⟨.operators n level (rounds + 1) left, s⟩
        ⟨.operators n level rounds (.binary op left right), s'⟩
  | group {n s} (h : s.current = .openParen) :
      Activates ⟨.operand (n + 1), s⟩ ⟨.level n .comparison, s.consume⟩
  | call {n s name} (hname : s.current = .name name) (hopen : opensCall s = true)
      (hargs : s.consume.consume.current ≠ .closeParen) :
      Activates ⟨.operand (n + 1), s⟩
        ⟨.arguments n (s.consume.consume.rest.length + 1) [], s.consume.consume⟩
  | argument {n rounds args s} :
      Activates ⟨.arguments n (rounds + 1) args, s⟩ ⟨.level n .comparison, s⟩
  | nextArgument {n rounds args s t} (ht : t = behindArgument (expression (operand n) s))
      (hcomma : t.toSeparator.current = .comma) :
      Activates ⟨.arguments n (rounds + 1) args, s⟩
        ⟨.arguments n rounds (args ++ (expression (operand n) s).1.toList), t.toSeparator.consume⟩

/-- A routine that is started below gives up in the state, for the fault. -/
def Activation.Leaves (a : Activation) (s : ParseState) (fault : ParseFault) : Prop :=
  ∃ b, ReflTransGen Activates a b ∧ b.state = s ∧ b.GivesUp fault

section Activations

variable {a b : Activation} {fault : ParseFault} {n rounds : Nat} {level : Level} {left : Expr}
  {args : List Expr} {s s' : ParseState} {p : Parser} {name : String}

theorem Activation.Leaves.of_activates (h : Activates a b) (hb : b.Leaves s fault) :
    a.Leaves s fault := by
  obtain ⟨c, hc, hstate, hgives⟩ := hb
  exact ⟨c, .head h hc, hstate, hgives⟩

theorem Activation.GivesUp.leaves (h : a.GivesUp fault) : a.Leaves a.state fault :=
  ⟨a, .refl, rfl, h⟩

theorem operand_succ_of_group (h : s.current = .openParen) :
    operand (n + 1) s = group (expression (operand n)) s := by
  simp only [operand, operandWith, h]

theorem operand_succ_of_call (hname : s.current = .name name) (hopen : opensCall s = true) :
    (operand (n + 1) s).2 = (functionCall (expression (operand n)) name s).2 := by
  simp only [operand, operandWith, hname, if_pos hopen]

theorem functionCall_of_arguments (hargs : s.consume.consume.current ≠ .closeParen) :
    (functionCall p name s).2 =
      (arguments p (s.consume.consume.rest.length + 1) [] s.consume.consume).2 := by
  unfold functionCall
  dsimp only
  split
  · rename_i hclose
    exact absurd hclose hargs
  · rfl

/-- **A routine that gives up ends with the rest of the text left out.** -/
theorem Activation.GivesUp.after_eq (h : a.GivesUp fault) : a.after = a.state.abandon fault := by
  cases h with
  | operators hop hfull => simp only [after, extendChain, hop, if_pos hfull]
  | group hopen => simp only [after, operand, operandWith, hopen]
  | call hname hopen => simp only [after, operand, operandWith, hname, if_pos hopen]

theorem arguments_eq_afterArgument (p : Parser) (rounds : Nat) (args : List Expr)
    (s : ParseState) : arguments p (rounds + 1) args s =
      afterArgument p rounds (args ++ (p s).1.toList) (behindArgument (p s)) := by
  rw [arguments_succ]
  obtain ⟨e, t⟩ := p s
  cases e with
  | none => rw [Option.toList_none, List.append_nil, behindArgument]
  | some e => rfl

/-- Arguments go on behind a comma. -/
theorem afterArgument_of_comma (h : s.toSeparator.current = .comma) :
    afterArgument p rounds args s = arguments p rounds args s.toSeparator.consume := by
  cases hcurrent : s.current with
  | comma =>
    have hhere : s.toSeparator = s := by simp only [toSeparator, hcurrent]
    simp only [hhere, afterArgument, hcurrent]
  | closeParen | finish =>
    have hhere : s.toSeparator = s := by simp only [toSeparator, hcurrent]
    rw [hhere, hcurrent] at h
    cases h
  | _ =>
    have hskip : s.toSeparator = (s.report .noSeparator).skipArgument := by
      simp only [toSeparator, hcurrent]
    rw [hskip] at h ⊢
    simp only [afterArgument, hcurrent, h]

end Activations

/-! ## 3. What routines do -/

/-- From start to end the routine makes moves. -/
def Activation.Moves (a : Activation) : Prop := Moved a.Leaves a.state a.after

section Routines

variable {a b : Activation} {n rounds : Nat} {level : Level} {left : Expr} {args : List Expr}
  {s s' : ParseState}

/-- Moves of a routine that is started are moves of the one that starts it. -/
theorem Activation.Moves.of_activates (hb : b.Moves) (h : Activates a b) :
    Moved a.Leaves b.state b.after :=
  Moved.mono (fun _ _ => Activation.Leaves.of_activates h) hb

/-- Behind a right operand. -/
theorem moved_right {op : Operator} (hop : level.operatorOf s.current = some op)
    (hroom : s.operators < maxOperators)
    (hmore : ∀ left s, (Activation.mk (.operators n level rounds left) s).Moves) :
    Moved (Activation.mk (.operators n level (rounds + 1) left) s).Leaves
      (levelParser (operand n) level.tighter s.passOperator).2
      (Activation.mk (.operators n level (rounds + 1) left) s).after := by
  simp only [Activation.after, extendChain, hop, if_neg (Nat.not_le.mpr hroom)]
  split
  · rename_i s' hread
    rw [hread]
  · rename_i right s' hread
    rw [hread]
    exact (hmore _ s').of_activates (.further hop hroom hread)

theorem moves_operators (hright : ∀ s, (Activation.mk (.level n level.tighter) s).Moves)
    (rounds : Nat) (left : Expr) (s : ParseState) :
    (Activation.mk (.operators n level rounds left) s).Moves := by
  induction rounds generalizing left s with
  | zero => exact .refl
  | succ rounds ih =>
    cases hop : level.operatorOf s.current with
    | none =>
      unfold Activation.Moves
      simp only [Activation.after, extendChain, hop]
      exact .refl
    | some op =>
      by_cases hfull : maxOperators ≤ s.operators
      · have hgives : Activation.GivesUp ⟨.operators n level (rounds + 1) left, s⟩ _ :=
          .operators hop hfull
        unfold Activation.Moves
        rw [hgives.after_eq]
        exact .single (.abandon hgives.leaves)
      · have hroom := Nat.not_le.mp hfull
        exact ((ReflTransGen.single (.passOperator s)).trans
          ((hright _).of_activates (.right hop hroom))).trans (moved_right hop hroom ih)

/-- Behind the first operand of a chain. -/
theorem moved_first (h : level.strength ≤ 4)
    (hoperators : ∀ rounds left s, (Activation.mk (.operators n level rounds left) s).Moves) :
    Moved (Activation.mk (.level n level) s).Leaves (levelParser (operand n) level.tighter s).2
      (levelParser (operand n) level s).2 := by
  rw [levelParser_eq_chain h, chain]
  split
  · rename_i s' hread
    rw [hread]
  · rename_i left s' hread
    rw [hread]
    exact (hoperators _ left s').of_activates (.operators h hread)

theorem moves_chain (level : Level) (h : level.strength ≤ 4)
    (htighter : ∀ s, (Activation.mk (.level n level.tighter) s).Moves) (s : ParseState) :
    (Activation.mk (.level n level) s).Moves :=
  ((htighter s).of_activates (.first h)).trans (moved_first h (moves_operators htighter))

/-- Behind an operand that is read for its level. -/
theorem moved_operand {leaves : ParseState → ParseFault → Prop} (h : 5 ≤ level.strength) :
    Moved leaves (operand n s).2 (levelParser (operand n) level s).2 := by
  cases level with
  | comparison | join | sum | product => exact absurd h (by decide)
  | range => exact moved_ranged (operand n) s
  | operand | openCall => exact .refl

theorem moves_level (hp : ∀ s, (Activation.mk (.operand n) s).Moves) (level : Level)
    (s : ParseState) : (Activation.mk (.level n level) s).Moves := by
  have hloose (level : Level) (h : 5 ≤ level.strength) (s : ParseState) :
      (Activation.mk (.level n level) s).Moves :=
    ((hp s).of_activates (.operand h)).trans (moved_operand h)
  have hproduct := moves_chain .product (by decide) (hloose .range (by decide))
  have hsum := moves_chain .sum (by decide) hproduct
  have hjoin := moves_chain .join (by decide) hsum
  cases level with
  | comparison => exact moves_chain .comparison (by decide) hjoin s
  | join => exact hjoin s
  | sum => exact hsum s
  | product => exact hproduct s
  | range | operand | openCall => exact hloose _ (by decide) s

section Separators

variable {leaves : ParseState → ParseFault → Prop}

theorem moved_behindArgument (read : Option Expr × ParseState) :
    Moved leaves read.2 (behindArgument read) := by
  obtain ⟨e, s⟩ := read
  cases e with
  | none => exact .single (.skipArgument s)
  | some e => exact .refl

theorem moved_toSeparator (s : ParseState) : Moved leaves s s.toSeparator := by
  unfold toSeparator
  split
  · exact .refl
  · exact .refl
  · exact .refl
  · exact (ReflTransGen.single (.report rfl)).tail (.skipArgument _)

/-- Behind an argument that no further one follows. -/
theorem moved_lastArgument {p : Parser} (h : s.toSeparator.current ≠ .comma) :
    Moved leaves s (afterArgument p rounds args s).2 := by
  cases hcurrent : s.current with
  | comma =>
    have hhere : s.toSeparator = s := by simp only [toSeparator, hcurrent]
    rw [hhere] at h
    exact absurd hcurrent h
  | closeParen =>
    simp only [afterArgument, hcurrent]
    exact .single (.consume s)
  | finish =>
    simp only [afterArgument, hcurrent]
    exact .single (.report rfl)
  | _ =>
    have hskip : Moved leaves s (s.report .noSeparator).skipArgument :=
      (ReflTransGen.single (.report rfl)).tail (.skipArgument _)
    simp only [toSeparator, hcurrent] at h
    simp only [afterArgument, hcurrent]
    split
    · contradiction
    · exact hskip.tail (.consume _)
    · exact hskip

end Separators

/-- Behind an argument. -/
theorem moved_argument
    (hmore : ∀ args s, (Activation.mk (.arguments n rounds args) s).Moves) :
    Moved (Activation.mk (.arguments n (rounds + 1) args) s).Leaves (expression (operand n) s).2
      (Activation.mk (.arguments n (rounds + 1) args) s).after := by
  have hbehind : Moved (Activation.mk (.arguments n (rounds + 1) args) s).Leaves
      (expression (operand n) s).2 (behindArgument (expression (operand n) s)) :=
    moved_behindArgument _
  refine hbehind.trans ?_
  rw [Activation.after, arguments_eq_afterArgument]
  by_cases hcomma : (behindArgument (expression (operand n) s)).toSeparator.current = .comma
  · rw [afterArgument_of_comma hcomma]
    exact ((moved_toSeparator _).tail (.consume _)).trans
      ((hmore _ _).of_activates (.nextArgument rfl hcomma))
  · exact moved_lastArgument hcomma

theorem moves_arguments (hinner : ∀ s, (Activation.mk (.level n .comparison) s).Moves)
    (rounds : Nat) (args : List Expr) (s : ParseState) :
    (Activation.mk (.arguments n rounds args) s).Moves := by
  induction rounds generalizing args s with
  | zero => exact .refl
  | succ rounds ih => exact ((hinner s).of_activates .argument).trans (moved_argument ih)

theorem moves_operand (n : Nat) (s : ParseState) : (Activation.mk (.operand n) s).Moves := by
  induction n generalizing s with
  | zero =>
    have hgives {fault : ParseFault} (h : Activation.GivesUp ⟨.operand 0, s⟩ fault) :
        (Activation.mk (.operand 0) s).Moves := by
      unfold Activation.Moves
      rw [h.after_eq]
      exact .single (.abandon h.leaves)
    exact moved_operandWith (fun hopen => hgives (.group hopen))
      fun name hname hopen => hgives (.call hname hopen)
  | succ n ih =>
    have hlevel := moves_level ih .comparison
    refine moved_operandWith (fun hopen => ?_) fun name hname hopen => ?_
    · rw [← operand, operand_succ_of_group hopen]
      exact ((ReflTransGen.single (.consume s)).trans
        ((hlevel _).of_activates (.group hopen))).trans (moved_group _ s)
    · rw [← operand, operand_succ_of_call hname hopen]
      have hopened : Moved (Activation.mk (.operand (n + 1)) s).Leaves s s.consume.consume :=
        (ReflTransGen.single (.consume s)).tail (.consume _)
      refine hopened.trans ?_
      by_cases hargs : s.consume.consume.current = .closeParen
      · simp only [functionCall, hargs]
        exact .single (.consume _)
      · rw [functionCall_of_arguments hargs]
        exact (moves_arguments hlevel _ [] _).of_activates (.call hname hopen hargs)

/-- **A routine makes moves only.** The rest of the text is left out only where a routine that is
    started below gives up. -/
theorem moved_after (a : Activation) : Moved a.Leaves a.state a.after := by
  obtain ⟨routine, s⟩ := a
  have hlevel (n : Nat) := moves_level (moves_operand n)
  cases routine with
  | operand n => exact moves_operand n s
  | level n level => exact hlevel n level s
  | operators n level rounds left => exact moves_operators (hlevel n level.tighter) rounds left s
  | arguments n rounds args => exact moves_arguments (hlevel n .comparison) rounds args s

/-- **A routine moves on from where a routine that it starts has ended.** -/
theorem moved_of_activates (h : Activates a b) : Moved a.Leaves b.after a.after := by
  cases h with
  | operand h => exact moved_operand h
  | first h => exact moved_first h fun _ _ _ => moved_after _
  | operators h hread =>
    simp only [Activation.after, levelParser_eq_chain h, chain, hread]
    exact .refl
  | right hop hroom => exact moved_right hop hroom fun _ _ => moved_after _
  | further hop hroom hread =>
    simp only [Activation.after, extendChain, hop, if_neg (Nat.not_le.mpr hroom), hread]
    exact .refl
  | group hopen =>
    rw [Activation.after, Activation.after, operand_succ_of_group hopen]
    exact moved_group _ _
  | call hname hopen hargs =>
    rw [Activation.after, Activation.after, operand_succ_of_call hname hopen,
      functionCall_of_arguments hargs]
  | argument => exact moved_argument fun _ _ => moved_after _
  | nextArgument ht hcomma =>
    subst ht
    rw [Activation.after, Activation.after, arguments_eq_afterArgument,
      afterArgument_of_comma hcomma]

theorem moved_of_reaches (h : ReflTransGen Activates a b) : Moved a.Leaves b.after a.after := by
  induction h using ReflTransGen.head_induction_on with
  | refl => exact .refl
  | head hfirst _ ih =>
    exact (Moved.mono (fun _ _ => Activation.Leaves.of_activates hfirst) ih).trans
      (moved_of_activates hfirst)

end Routines

end Gridcalc
