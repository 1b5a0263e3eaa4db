import Gridcalc.Proofs.Formula.Language
import Gridcalc.Proofs.Formula.Trees

/-!
# Bounded trees

Whatever a text says, the tree that is read from it is small: each operator of a tree has been
counted, and each call of a tree has been read one level deeper than what stands around it.

* `Expr.IsPath`, `Expr.heaviest`, `Expr.callDepth`, `Expr.height`: paths from the root and what
  stands on them;
* `Expr.height_le`: the height is bounded by the operators and the calls on a path;
* `Found`, `BoundedReader`: what a reader does to the state, and how large the trees are;
* `bounded_levelParser`, `bounded_operand`: **every reader finds bounded trees**.
-/

namespace Gridcalc

namespace Expr

/-! ## 1. Paths of a tree -/

/-- The trees directly below the root. -/
def children : Expr → List Expr
  | .binary _ left right => [left, right]
  | .call _ args => args
  | _ => []

/-- Trees each of which stands directly below the one in front of it. -/
def IsPath (path : List Expr) : Prop := path.IsChain fun e child => child ∈ e.children

mutual

/-- The greatest weight of the trees on a path from the root. -/
def heaviest (weight : Expr → Nat) : Expr → Nat
  | .binary op left right =>
    weight (.binary op left right) + max (heaviest weight left) (heaviest weight right)
  | .call name args => weight (.call name args) + heaviestOfArgs weight args
  | e => weight e

/-- The greatest weight of the trees on a path from an argument of a call. -/
def heaviestOfArgs (weight : Expr → Nat) : List Expr → Nat
  | [] => 0
  | e :: es => max (heaviest weight e) (heaviestOfArgs weight es)

end

/-- Whether a tree is a call. -/
def isCall : Expr → Bool
  | .call _ _ => true
  | _ => false

/-- How many calls stand on a path from the root at most. -/
def callDepth : Expr → Nat := heaviest fun e => e.isCall.toNat

/-- How many trees stand on a path from the root at most. -/
def height : Expr → Nat := heaviest fun _ => 1

section Paths

variable {weight : Expr → Nat} {e : Expr} {args path : List Expr} {n : Nat}

theorem operatorCount_le_of_mem (h : e ∈ args) : operatorCount e ≤ operatorCountOfArgs args := by
  obtain ⟨before, behind, rfl⟩ := List.append_of_mem h
  rw [operatorCountOfArgs_append, operatorCountOfArgs]
  omega

theorem heaviestOfArgs_le_iff :
    heaviestOfArgs weight args ≤ n ↔ ∀ e ∈ args, heaviest weight e ≤ n := by
  induction args with
  | nil => simp [heaviestOfArgs]
  | cons e es ih => rw [heaviestOfArgs, Nat.max_le, ih, List.forall_mem_cons]

/-- What stands below a tree weighs less by the tree. -/
theorem weight_add_heaviest_le (weight : Expr → Nat) {child : Expr} (h : child ∈ e.children) :
    weight e + heaviest weight child ≤ heaviest weight e := by
  cases e with
  | binary op left right =>
    rw [heaviest]
    refine Nat.add_le_add_left ?_ _
    rcases List.mem_pair.mp h with rfl | rfl
    · exact Nat.le_max_left _ _
    · exact Nat.le_max_right _ _
  | call name args =>
    rw [heaviest]
    exact Nat.add_le_add_left (heaviestOfArgs_le_iff.mp (Nat.le_refl _) child h) _
  | _ => exact absurd h List.not_mem_nil

theorem weight_le_heaviest (weight : Expr → Nat) (e : Expr) : weight e ≤ heaviest weight e := by
  cases e with
  | binary op left right => exact Nat.le_add_right _ _
  | call name args => exact Nat.le_add_right _ _
  | _ => exact Nat.le_refl _

/-- **No path from the root weighs more.** -/
theorem sum_le_heaviest (weight : Expr → Nat) (h : IsPath (e :: path)) :
    ((e :: path).map weight).sum ≤ heaviest weight e := by
  induction path generalizing e with
  | nil =>
    rw [List.map_singleton, List.sum_singleton]
    exact weight_le_heaviest weight e
  | cons child path ih =>
    obtain ⟨hchild, hrest⟩ := List.isChain_cons_cons.mp h
    rw [List.map_cons, List.sum_cons]
    exact (Nat.add_le_add_left (ih hrest) _).trans (weight_add_heaviest_le weight hchild)

theorem countP_isCall_le (h : IsPath (e :: path)) :
    (e :: path).countP isCall ≤ callDepth e := by
  have hsum : ∀ es : List Expr, es.countP isCall = (es.map fun e => e.isCall.toNat).sum := by
    intro es
    induction es with
    | nil => rfl
    | cons e es ih =>
      rw [List.countP_cons, List.map_cons, List.sum_cons, ih, Nat.add_comm]
      cases e.isCall <;> rfl
  rw [hsum]
  exact sum_le_heaviest _ h

theorem length_le_height (h : IsPath (e :: path)) : (e :: path).length ≤ height e := by
  have hsum := sum_le_heaviest (fun _ => 1) h
  rwa [List.map_const', List.sum_replicate_nat, Nat.mul_one] at hsum

theorem callDepth_binary (op : Operator) (left right : Expr) :
    callDepth (.binary op left right) = max (callDepth left) (callDepth right) :=
  Nat.zero_add _

theorem callDepth_call_le_iff {name : String} :
    callDepth (.call name args) ≤ n + 1 ↔ ∀ e ∈ args, callDepth e ≤ n := by
  show 1 + heaviestOfArgs _ args ≤ n + 1 ↔ _
  rw [Nat.add_comm, Nat.add_le_add_iff_right, heaviestOfArgs_le_iff]
  rfl

/-- **A path has no more trees than there are operators in the tree and calls on a path**, and one
    more at its end. -/
theorem height_le (e : Expr) : e.height ≤ e.operatorCount + e.callDepth + 1 := by
  induction e using treeInduction with
  | binary op left right hleft hright =>
    rw [callDepth_binary, operatorCount]
    show 1 + max left.height right.height ≤ _
    omega
  | call name args ih =>
    rw [operatorCount]
    have hargs : ∀ e ∈ args, e.height ≤ operatorCountOfArgs args + (call name args).callDepth := by
      intro e he
      have hcount := operatorCount_le_of_mem he
      have hdepth : callDepth e + 1 ≤ callDepth (.call name args) := by
        have hbelow := weight_add_heaviest_le (e := .call name args) (fun e => e.isCall.toNat) he
        rwa [Nat.add_comm] at hbelow
      have := ih e he
      omega
    show 1 + heaviestOfArgs (fun _ => 1) args ≤ _
    rw [Nat.add_comm]
    exact Nat.succ_le_succ (heaviestOfArgs_le_iff.mpr hargs)
  | _ => exact Nat.le_refl _

end Paths

end Expr

/-! ## 2. What a reader does -/

/-- From one state to another trees have been found. No tokens have been added, each operator of
    the trees has been counted, not too many of them, and at most `n` calls stand on a path. -/
structure Found (n : Nat) (s : ParseState) (trees : List Expr) (s' : ParseState) : Prop where
  rest : s'.rest.length ≤ s.rest.length
  finish : s'.finish = s.finish
  count : Expr.operatorCountOfArgs trees + s.operators ≤ s'.operators
  limit : s.operators ≤ maxOperators → s'.operators ≤ maxOperators
  calls : ∀ e ∈ trees, e.callDepth ≤ n

/-- A reader that finds trees with at most `n` calls on a path. -/
def BoundedReader (n : Nat) (p : Parser) : Prop := ∀ s, Found n s (p s).1.toList (p s).2

section Steps

open ParseState

variable {n : Nat} {s s' s'' : ParseState} {trees trees' : List Expr} {e left right : Expr}

theorem Found.trans (h : Found n s trees s') (h' : Found n s' trees' s'') :
    Found n s (trees ++ trees') s'' where
  rest := h'.rest.trans h.rest
  finish := h'.finish.trans h.finish
  count := by
    have hfirst := h.count
    have hsecond := h'.count
    rw [Expr.operatorCountOfArgs_append]
    omega
  limit := h'.limit ∘ h.limit
  calls e he := (List.mem_append.mp he).elim (h.calls e) (h'.calls e)

/-- More of the text is left behind. -/
theorem Found.next (h : Found n s trees s') (h' : Found n s' [] s'') :
    Found n s trees s'' := by
  have htrans := h.trans h'
  rwa [List.append_nil] at htrans

theorem Found.refl (n : Nat) (s : ParseState) : Found n s [] s :=
  ⟨Nat.le_refl _, rfl, Nat.le_of_eq (Nat.zero_add _), id, fun _ he => nomatch he⟩

theorem Found.consume (n : Nat) (s : ParseState) : Found n s [] s.consume :=
  { Found.refl n s with rest := Nat.le_trans (Nat.le_of_eq List.length_tail) (Nat.sub_le _ _) }

theorem Found.report (n : Nat) (s : ParseState) (fault : ParseFault) :
    Found n s [] (s.report fault) := by
  unfold ParseState.report
  split
  · exact .refl n s
  · exact { Found.refl n s with }

theorem Found.abandon (n : Nat) (s : ParseState) (fault : ParseFault) :
    Found n s [] (s.abandon fault) :=
  { Found.report n s fault with rest := Nat.zero_le _ }

theorem Found.skipArgument (n : Nat) (s : ParseState) : Found n s [] s.skipArgument :=
  { Found.refl n s with rest := length_skipTokens_le 0 s.rest }

theorem Found.passOperator (n : Nat) {s : ParseState} (hroom : s.operators < maxOperators) :
    Found n s [] s.passOperator :=
  { Found.consume n s with
    count := (Found.refl n s).count.trans (Nat.le_succ _)
    limit := fun _ => hroom }

/-- A tree without operators and calls. -/
theorem Found.leaf (h : Found n s [] s') (hcount : e.operatorCount = 0)
    (hcalls : e.callDepth = 0) : Found n s [e] s' :=
  { h with
    count := by
      show e.operatorCount + 0 + s.operators ≤ s'.operators
      rw [hcount]
      exact h.count
    calls := fun e' he' => by
      rw [List.mem_singleton.mp he', hcalls]
      exact Nat.zero_le n }

/-- Two operands, and the operator between them, which has been counted. -/
theorem Found.binary (op : Operator) (h : Found n s [left] s')
    (hroom : s'.operators < maxOperators) (h' : Found n s'.passOperator [right] s'') :
    Found n s [.binary op left right] s'' where
  rest := h'.rest.trans ((Found.consume n s').rest.trans h.rest)
  finish := h'.finish.trans h.finish
  count := by
    have hleft := h.count
    have hright : _ + (s'.operators + 1) ≤ _ := h'.count
    simp only [Expr.operatorCountOfArgs, Expr.operatorCount] at hleft hright ⊢
    omega
  limit _ := h'.limit hroom
  calls e he := by
    rw [List.mem_singleton.mp he, Expr.callDepth_binary]
    exact Nat.max_le.mpr ⟨h.calls _ List.mem_cons_self, h'.calls _ List.mem_cons_self⟩

/-- The arguments of a call stand one level deeper. -/
theorem Found.call (name : String) (h : Found n s trees s') :
    Found (n + 1) s [.call name trees] s' :=
  { h with
    count := h.count
    calls := fun e he => by
      rw [List.mem_singleton.mp he]
      exact Expr.callDepth_call_le_iff.mpr h.calls }

theorem Found.mono (h : Found n s trees s') : Found (n + 1) s trees s' :=
  { h with calls := fun e he => Nat.le_succ_of_le (h.calls e he) }

theorem Found.forget (h : Found n s trees s') : Found n s [] s' :=
  { h with
    count := (Nat.add_le_add_right (Nat.zero_le _) _).trans h.count
    calls := fun _ he => nomatch he }

end Steps

/-! ## 3. What the readers find -/

section Readers

variable {n : Nat} {p : Parser} {ops : TokenKind → Option Operator} {s s' : ParseState}

theorem BoundedReader.of_some {e : Expr} (hp : BoundedReader n p) (h : p s = (some e, s')) :
    Found n s [e] s' := by
  have hread := hp s
  rwa [h] at hread

theorem BoundedReader.of_none (hp : BoundedReader n p) (h : p s = (none, s')) :
    Found n s [] s' := by
  have hread := hp s
  rwa [h] at hread

theorem found_extendChain (hp : BoundedReader n p) (fuel : Nat) (left : Expr)
    (h : Found n s [left] s') :
    Found n s (extendChain ops p fuel left s').1.toList (extendChain ops p fuel left s').2 := by
  induction fuel generalizing left s' with
  | zero => exact h
  | succ fuel ih =>
    unfold extendChain
    split
    · exact h
    rename_i op hop
    split
    · exact h.next (.abandon n s' _)
    rename_i hroom
    have hroom := Nat.not_le.mp hroom
    split
    · rename_i s'' hread
      exact h.next ((Found.passOperator n hroom).next (hp.of_none hread))
    · rename_i right s'' hread
      exact ih _ (h.binary op hroom (hp.of_some hread))

theorem bounded_chain (hp : BoundedReader n p) : BoundedReader n (chain ops p) := by
  intro s
  unfold chain
  split
  · rename_i s' hread
    exact hp.of_none hread
  · rename_i left s' hread
    exact found_extendChain hp _ left (hp.of_some hread)

theorem bounded_ranged (hp : BoundedReader n p) : BoundedReader n (ranged p) := by
  intro s
  unfold ranged
  split
  · rename_i s' hread
    exact hp.of_none hread
  · rename_i left s' hread
    have hleft := hp.of_some hread
    dsimp only
    split
    · have hcolon := Found.consume n s'
      split
      · split
        · exact Found.leaf (hleft.forget.next (hcolon.next (.consume n _))) rfl rfl
        · exact hleft.next (hcolon.next ((Found.report n _ _).next (.consume n _)))
      · exact hleft.next (hcolon.next (.report n _ _))
    · exact hleft.next (.report n s' _)
    · exact hleft

theorem bounded_levelParser (hp : BoundedReader n p) (level : Level) :
    BoundedReader n (levelParser p level) := by
  have hrange := bounded_ranged hp
  cases level with
  | comparison => exact bounded_chain (bounded_chain (bounded_chain (bounded_chain hrange)))
  | join => exact bounded_chain (bounded_chain (bounded_chain hrange))
  | sum => exact bounded_chain (bounded_chain hrange)
  | product => exact bounded_chain hrange
  | range => exact hrange
  | operand => exact hp
  | openCall => exact hp

theorem found_afterArgument {fuel : Nat} {args : List Expr}
    (hmore : ∀ s', Found n s args s' →
      Found n s (arguments p fuel args s').1 (arguments p fuel args s').2)
    (h : Found n s args s') :
    Found n s (afterArgument p fuel args s').1 (afterArgument p fuel args s').2 := by
  unfold afterArgument
  split
  · exact hmore _ (h.next (.consume n s'))
  · exact h.next (.consume n s')
  · exact h.next (.report n s' _)
  · have hskip := h.next ((Found.report n s' .noSeparator).next (.skipArgument n _))
    dsimp only
    split
    · exact hmore _ (hskip.next (.consume n _))
    · exact hskip.next (.consume n _)
    · exact hskip

theorem found_arguments (hp : BoundedReader n p) (fuel : Nat) (args : List Expr)
    (h : Found n s args s') :
    Found n s (arguments p fuel args s').1 (arguments p fuel args s').2 := by
  induction fuel generalizing args s' with
  | zero => exact h
  | succ fuel ih =>
    rw [arguments_succ]
    split
    · rename_i e s'' hread
      exact found_afterArgument (fun s' h => ih _ h) (h.trans (hp.of_some hread))
    · rename_i s'' hread
      have hskip := (hp.of_none hread).next (.skipArgument n s'')
      exact found_afterArgument (fun s' h => ih _ h) (h.next hskip)

theorem found_functionCall (hp : BoundedReader n p) (name : String) (s : ParseState) :
    Found (n + 1) s [(functionCall p name s).1] (functionCall p name s).2 := by
  have hopen := (Found.consume n s).next (.consume n s.consume)
  unfold functionCall
  dsimp only
  split
  · exact (hopen.next (.consume n _)).call _
  · exact (found_arguments hp _ [] hopen).call _

theorem found_bareName (name : String) (s : ParseState) :
    Found n s [(bareName name s).1] (bareName name s).2 := by
  unfold bareName
  split
  · exact (Found.consume n s).leaf rfl rfl
  · split
    · exact (Found.consume n s).leaf rfl rfl
    · exact ((Found.report n s _).next (.consume n _)).leaf rfl rfl

theorem found_group (hp : BoundedReader n p) (s : ParseState) :
    Found n s (group p s).1.toList (group p s).2 := by
  have hbody := (Found.consume n s).trans (hp s.consume)
  unfold group
  dsimp only
  split
  · exact hbody.next (.consume n _)
  · exact hbody.next (.report n _ _)

/-- Only groups and calls are nested. -/
theorem bounded_operandWith {inner : Option Parser}
    (hinner : ∀ p ∈ inner, ∃ m, n = m + 1 ∧ BoundedReader m p) :
    BoundedReader n (operandWith inner) := by
  intro s
  have hfault : ∀ fault, Found n s [] (s.report fault) := Found.report n s
  unfold operandWith
  split
  · exact (Found.consume n s).leaf rfl rfl
  · exact (Found.consume n s).leaf rfl rfl
  · exact (Found.consume n s).leaf rfl rfl
  · exact (Found.consume n s).leaf rfl rfl
  · rename_i p hcurrent
    obtain ⟨m, rfl, hp⟩ := hinner p rfl
    exact (found_group hp s).mono
  · exact .abandon n s _
  · split
    · split
      · rename_i p
        obtain ⟨m, rfl, hp⟩ := hinner p rfl
        exact found_functionCall hp _ s
      · exact .abandon n s _
    · exact found_bareName _ s
  · exact hfault _
  · exact hfault _
  · exact hfault _

/-- **A tree has no more calls on a path than there are levels to nest.** -/
theorem bounded_operand (n : Nat) : BoundedReader n (operand n) := by
  induction n with
  | zero => exact bounded_operandWith fun p hp => nomatch hp
  | succ n ih =>
    refine bounded_operandWith ?_
    rintro p ⟨⟩
    exact ⟨n, rfl, bounded_levelParser ih .comparison⟩

end Readers

end Gridcalc
