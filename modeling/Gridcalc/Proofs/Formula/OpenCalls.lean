import Gridcalc.Proofs.Formula.Language

/-!
# Calls around a place in a formula

Which calls a place between two tokens stands in, once by the grammar and once by going through the
tokens in front of the place and keeping what is open.

* `IsCallAround`: what stands on the two sides of a place is one call, cut in one of its arguments;
* `OpenParens`: what is open behind some tokens;
* `Closes`: tokens that leave open what was open, and cut anywhere leave the calls around the cut
  open above it; `Language.Expression.closes`: **every expression is such**;
* `mem_opened_iff`: **the calls left open in front of a place are the calls around it**;
* `ordered_after`: the innermost of them comes first.
-/

namespace Gridcalc

/-! ## 1. Calls around a place -/

/-- The tokens of an argument. -/
def IsArgument (ks : List TokenKind) : Prop := ∃ n e, Language.Expression n ks e

/-- Arguments with commas between them, or nothing at all, cut in an argument that so many others
    stand in front of. -/
def AtArgument (inside rest : List TokenKind) (argument : Nat) : Prop :=
  ∃ done left right todo, inside = done.flatMap (· ++ [.comma]) ++ left ∧
    rest = right ++ todo.flatMap ([.comma] ++ ·) ∧ done.length = argument ∧
    (done ++ (left ++ right) :: todo = [[]] ∨
      ∀ part ∈ done ++ (left ++ right) :: todo, IsArgument part)

/-- A call with an open parenthesis: how many tokens stand in front of its name, and how many
    arguments in front of the one that has been reached. -/
structure OpenCall where
  place : Nat
  argument : Nat
  deriving DecidableEq

/-- The call stands around the place between the tokens `before` and the tokens `after`. -/
def IsCallAround (before after : List TokenKind) (call : OpenCall) : Prop :=
  ∃ front name inside rest back, front.length = call.place ∧
    before = front ++ .name name :: .openParen :: inside ∧ after = rest ++ .closeParen :: back ∧
    AtArgument inside rest call.argument

section Cuts

variable {before after : List TokenKind} {p argument : Nat}

/-- A call stands around a place whatever is farther away. -/
theorem IsCallAround.extend (h : IsCallAround before after ⟨p, argument⟩)
    (front back : List TokenKind) :
    IsCallAround (front ++ before) (after ++ back) ⟨front.length + p, argument⟩ := by
  obtain ⟨front', name, inside, rest, back', hp, rfl, rfl, hargument⟩ := h
  refine ⟨front ++ front', name, inside, rest, back' ++ back, ?_, ?_, ?_, hargument⟩
  · rw [List.length_append, hp]
  · rw [List.append_assoc]
  · rw [List.append_assoc, List.cons_append]

/-- Where two lists with something between them are cut. -/
theorem append_cons_eq_append {α : Type} {xs ys l r : List α} {x : α}
    (h : xs ++ x :: ys = l ++ r) :
    (∃ right, xs = l ++ right ∧ r = right ++ x :: ys) ∨
      ∃ left, l = xs ++ x :: left ∧ ys = left ++ r := by
  rcases List.append_eq_append_iff.mp h with ⟨left, hl, hr⟩ | ⟨right, hxs, hr⟩
  · cases left with
    | nil => exact .inl ⟨[], by simpa using hl.symm, by simpa using hr.symm⟩
    | cons y left =>
      obtain ⟨rfl, hys⟩ := List.cons.inj hr
      exact .inr ⟨left, hl, hys⟩
  · exact .inl ⟨right, hxs, hr⟩

/-- Where arguments with commas between them are cut. -/
theorem exists_cut (part : List TokenKind) (parts : List (List TokenKind))
    {l r : List TokenKind} (h : part ++ parts.flatMap ([.comma] ++ ·) = l ++ r) :
    ∃ done left right todo, part :: parts = done ++ (left ++ right) :: todo ∧
      l = done.flatMap (· ++ [.comma]) ++ left ∧ r = right ++ todo.flatMap ([.comma] ++ ·) := by
  induction parts generalizing part l with
  | nil => exact ⟨[], l, r, [], by simpa using h, by simp, by simp⟩
  | cons next parts ih =>
    rcases append_cons_eq_append h with ⟨right, rfl, hr⟩ | ⟨left, rfl, hrest⟩
    · exact ⟨[], l, right, next :: parts, by simp, by simp, hr⟩
    · obtain ⟨done, left, right, todo, hparts, rfl, rfl⟩ := ih next hrest
      exact ⟨part :: done, left, right, todo, by rw [hparts, List.cons_append], by simp, rfl⟩

end Cuts

/-! ## 2. What is open behind some tokens -/

/-- How many tokens have gone by, whether the last of them is a name, and the parentheses that are
    open, the innermost first; groups have one without a call. -/
structure OpenParens where
  place : Nat := 0
  named : Bool := false
  opened : List (Option OpenCall) := []

namespace OpenParens

/-- The parentheses with one more argument in the innermost one. -/
def passComma : List (Option OpenCall) → List (Option OpenCall)
  | some call :: opened => some { call with argument := call.argument + 1 } :: opened
  | opened => opened

/-- What is open behind one more token. -/
def step (s : OpenParens) (k : TokenKind) : OpenParens where
  place := s.place + 1
  named := match k with
    | .name _ => true
    | _ => false
  opened := match k with
    | .openParen => (if s.named then some ⟨s.place - 1, 0⟩ else none) :: s.opened
    | .closeParen => s.opened.tail
    | .comma => passComma s.opened
    | _ => s.opened

/-- What is open behind some more tokens. -/
def after (s : OpenParens) (ks : List TokenKind) : OpenParens := ks.foldl step s

/-- The calls that are open, the innermost first. -/
def calls (s : OpenParens) : List OpenCall := s.opened.reduceOption

end OpenParens

/-- Tokens that open and close nothing and separate no arguments. -/
def TokenKind.isInner : TokenKind → Bool
  | .openParen | .closeParen | .comma => false
  | _ => true

theorem TokenKind.cases_of_not_isInner {k : TokenKind} (h : k.isInner = false) :
    k = .openParen ∨ k = .closeParen ∨ k = .comma := by
  cases k <;> first | (simp; done) | cases h

namespace OpenParens

variable {s : OpenParens} {k : TokenKind} {ks ks' : List TokenKind}

@[simp] theorem after_nil : s.after [] = s := rfl

@[simp] theorem after_cons : s.after (k :: ks) = (s.step k).after ks := rfl

@[simp] theorem after_append : s.after (ks ++ ks') = (s.after ks).after ks' := List.foldl_append

@[simp] theorem place_step : (s.step k).place = s.place + 1 := rfl

@[simp] theorem place_after : (s.after ks).place = s.place + ks.length := by
  induction ks generalizing s with
  | nil => rfl
  | cons k ks ih => rw [after_cons, ih, place_step, List.length_cons]; omega

theorem opened_step (h : k.isInner = true) : (s.step k).opened = s.opened := by
  cases k <;> first | rfl | cases h

@[simp] theorem opened_step_close : (s.step .closeParen).opened = s.opened.tail := rfl

@[simp] theorem opened_step_comma : (s.step .comma).opened = passComma s.opened := rfl

/-- A parenthesis behind a name opens a call. -/
theorem opened_named (h : s.named = true) :
    (s.step .openParen).opened = some ⟨s.place - 1, 0⟩ :: s.opened := by
  simp [step, h]

theorem opened_call (name : String) :
    ((s.step (.name name)).step .openParen).opened = some ⟨s.place, 0⟩ :: s.opened := rfl

/-- A parenthesis behind anything else opens a group. -/
theorem opened_group (h : s.named = false) : (s.step .openParen).opened = none :: s.opened := by
  simp [step, h]

theorem named_step (h : ∀ name, k ≠ .name name) : (s.step k).named = false := by
  cases k <;> first | rfl | exact absurd rfl (h _)

end OpenParens

open OpenParens

/-! ## 3. Tokens that close what they open -/

/-- The calls that have been opened since a place stand around the cut between `l` and `r`. -/
def CallsFrom (place : Nat) (l r : List TokenKind) (inner : List (Option OpenCall)) : Prop :=
  ∀ call, some call ∈ inner → ∃ p, call.place = place + p ∧ IsCallAround l r ⟨p, call.argument⟩

/-- Tokens that leave open what was open. Cut anywhere, they leave open above it what stands around
    the cut. -/
structure Closes (ks : List TokenKind) : Prop where
  whole : ∀ s : OpenParens, s.named = false → (s.after ks).opened = s.opened
  cut : ∀ (s : OpenParens) (l r : List TokenKind), s.named = false → ks = l ++ r →
    ∃ inner, (s.after l).opened = inner ++ s.opened ∧ CallsFrom s.place l r inner

section Closes

variable {s : OpenParens} {k : TokenKind} {ks kl kr l r inside : List TokenKind} {place : Nat}
  {inner : List (Option OpenCall)}

theorem CallsFrom.nil : CallsFrom place l r [] := fun _ h => absurd h List.not_mem_nil

theorem CallsFrom.extend (h : CallsFrom (place + kl.length) l r inner) (back : List TokenKind) :
    CallsFrom place (kl ++ l) (r ++ back) inner := by
  intro call hcall
  obtain ⟨p, hp, haround⟩ := h call hcall
  exact ⟨kl.length + p, by omega, haround.extend kl back⟩

theorem CallsFrom.extend_back (h : CallsFrom place l r inner) (back : List TokenKind) :
    CallsFrom place l (r ++ back) inner := by
  have hstart : CallsFrom (place + ([] : List TokenKind).length) l r inner := h
  exact hstart.extend back

theorem Closes.single (h : k.isInner = true) : Closes [k] := by
  refine ⟨fun s _ => opened_step h, fun s l r _ hcut => ⟨[], ?_, .nil⟩⟩
  rcases List.singleton_eq_append_iff.mp hcut with ⟨rfl, -⟩ | ⟨rfl, -⟩
  · rfl
  · exact opened_step h

/-- Two parts with an operator or colon between them. -/
theorem Closes.mark (hl : Closes kl) (hk : k.isInner = true) (hname : ∀ name, k ≠ .name name)
    (hr : Closes kr) : Closes (kl ++ k :: kr) := by
  have hfront : ∀ s : OpenParens, s.named = false →
      ((s.after kl).step k).opened = s.opened ∧ ((s.after kl).step k).named = false :=
    fun s hs => ⟨(opened_step hk).trans (hl.whole s hs), named_step hname⟩
  refine ⟨fun s hs => ?_, fun s l r hs hcut => ?_⟩
  · rw [after_append, after_cons, hr.whole _ (hfront s hs).2, (hfront s hs).1]
  · rcases append_cons_eq_append hcut with ⟨right, hkl, rfl⟩ | ⟨left, rfl, hkr⟩
    · obtain ⟨inner, hopened, hcalls⟩ := hl.cut s l right hs hkl
      exact ⟨inner, hopened, hcalls.extend_back _⟩
    · obtain ⟨inner, hopened, hcalls⟩ := hr.cut _ left r (hfront s hs).2 hkr
      refine ⟨inner, ?_, ?_⟩
      · rw [after_append, after_cons, hopened, (hfront s hs).1]
      · have hplace : ((s.after kl).step k).place = s.place + (kl ++ [k]).length := by
          rw [place_step, place_after, List.length_append, List.length_singleton, Nat.add_assoc]
        rw [hplace] at hcalls
        simpa using hcalls.extend []

theorem Closes.group (h : Closes inside) : Closes (.openParen :: inside ++ [.closeParen]) := by
  have hstart : ∀ s : OpenParens, (s.step .openParen).named = false := fun _ => rfl
  have hall : ∀ s : OpenParens, s.named = false →
      (s.after (.openParen :: inside ++ [.closeParen])).opened = s.opened := by
    intro s hs
    rw [List.cons_append, after_cons, after_append, after_cons, after_nil, opened_step_close,
      h.whole _ (hstart s), opened_group hs, List.tail_cons]
  refine ⟨hall, fun s l r hs hcut => ?_⟩
  rw [List.cons_append] at hcut
  cases l with
  | nil => exact ⟨[], rfl, .nil⟩
  | cons k l =>
    obtain ⟨rfl, htail⟩ := List.cons.inj hcut
    rcases append_cons_eq_append htail with ⟨right, hinside, rfl⟩ | ⟨left, rfl, hleft⟩
    · obtain ⟨inner, hopened, hcalls⟩ := h.cut _ l right (hstart s) hinside
      refine ⟨inner ++ [none], ?_, ?_⟩
      · rw [after_cons, hopened, opened_group hs, List.append_assoc, List.singleton_append]
      · intro call hcall
        have hinner : some call ∈ inner := by simpa using hcall
        have hextended : CallsFrom s.place ([.openParen] ++ l) (right ++ [.closeParen]) inner :=
          CallsFrom.extend (by simpa using hcalls) _
        exact hextended call hinner
    · obtain ⟨rfl, rfl⟩ := List.append_eq_nil_iff.mp hleft.symm
      exact ⟨[], hall s hs, .nil⟩

/-! ## 4. Arguments -/

variable {call : OpenCall} {opened : List (Option OpenCall)} {parts done : List (List TokenKind)}

/-- What is open behind so many arguments of a call, each with its comma. -/
theorem opened_after_arguments (hparts : ∀ part ∈ parts, Closes part) (hs : s.named = false)
    (hopened : s.opened = some call :: opened) :
    (s.after (parts.flatMap (· ++ [.comma]))).opened =
        some { call with argument := call.argument + parts.length } :: opened ∧
      (s.after (parts.flatMap (· ++ [.comma]))).named = false := by
  induction parts generalizing s call with
  | nil => exact ⟨hopened, hs⟩
  | cons part parts ih =>
    obtain ⟨hpart, hrest⟩ := List.forall_mem_cons.mp hparts
    have hcomma : ((s.after part).step .comma).opened =
        some { call with argument := call.argument + 1 } :: opened := by
      rw [opened_step_comma, hpart.whole s hs, hopened]
      rfl
    have hall := ih hrest rfl hcomma
    rw [List.flatMap_cons, List.append_assoc, after_append, List.singleton_append, after_cons,
      List.length_cons]
    simpa [Nat.add_assoc, Nat.add_comm 1] using hall

/-- What is open in front of a place in the arguments of a call. -/
theorem opened_in_call (hparts : ∀ part ∈ done, Closes part) (hpart : Closes (kl ++ kr))
    (s : OpenParens) (name : String) :
    ∃ inner, (s.after (.name name :: .openParen :: (done.flatMap (· ++ [.comma]) ++ kl))).opened =
        inner ++ some ⟨s.place, done.length⟩ :: s.opened ∧
      CallsFrom (s.place + 2 + (done.flatMap (· ++ [.comma])).length) kl kr inner := by
  obtain ⟨hopened, hnamed⟩ := opened_after_arguments hparts
    (s := (s.step (.name name)).step .openParen) rfl (opened_call name)
  obtain ⟨inner, hinner, hcalls⟩ := hpart.cut _ kl kr hnamed rfl
  refine ⟨inner, ?_, by simpa using hcalls⟩
  rw [after_cons, after_cons, after_append, hinner, hopened, Nat.zero_add]

theorem Closes.nil : Closes [] := by
  refine ⟨fun _ _ => rfl, fun s l r _ hcut => ⟨[], ?_, .nil⟩⟩
  obtain ⟨rfl, rfl⟩ := List.append_eq_nil_iff.mp hcut.symm
  rfl

/-- What is open in front of a place in a call: the call, and in it what is open in the argument. -/
theorem exists_opened_in_call {part : List TokenKind} (hparts : ∀ p ∈ part :: parts, Closes p)
    (hargs : part :: parts = [[]] ∨ ∀ p ∈ part :: parts, IsArgument p) (s : OpenParens)
    (name : String) (hcut : part ++ parts.flatMap ([.comma] ++ ·) = l ++ r) :
    ∃ inner, (s.after (.name name :: .openParen :: l)).opened = inner ++ s.opened ∧
      CallsFrom s.place (.name name :: .openParen :: l) (r ++ [.closeParen]) inner := by
  obtain ⟨done, left, right, todo, hall, rfl, rfl⟩ := exists_cut part parts hcut
  rw [hall] at hparts hargs
  have hdone : ∀ p ∈ done, Closes p := fun p hp => hparts p (List.mem_append_left _ hp)
  obtain ⟨inner, hopened, hcalls⟩ :=
    opened_in_call hdone (hparts (left ++ right) (by simp)) s name
  refine ⟨inner ++ [some ⟨s.place, done.length⟩], ?_, fun call hcall => ?_⟩
  · rw [hopened, List.append_assoc, List.singleton_append]
  · rcases List.mem_append.mp hcall with hinner | hself
    · -- a call in the argument
      have hextended : CallsFrom s.place
          ((.name name :: .openParen :: done.flatMap (· ++ [.comma])) ++ left)
          (right ++ (todo.flatMap ([.comma] ++ ·) ++ [.closeParen])) inner :=
        CallsFrom.extend (by simpa [Nat.add_assoc, Nat.add_comm 2] using hcalls) _
      simpa using hextended call hinner
    · -- the call itself
      cases List.mem_singleton.mp hself
      exact ⟨0, rfl, [], name, _, _, [], rfl, rfl, rfl, done, left, right, todo, rfl, rfl, rfl,
        hargs⟩

theorem opened_behind_arguments {part : List TokenKind} (hparts : ∀ p ∈ part :: parts, Closes p)
    (s : OpenParens) (name : String) :
    ∃ call, (s.after (.name name :: .openParen :: (part ++ parts.flatMap ([.comma] ++ ·)))).opened =
      some call :: s.opened := by
  obtain ⟨done, left, right, todo, hall, hl, hr⟩ := exists_cut part parts (List.append_nil _).symm
  obtain ⟨rfl, htodo⟩ := List.append_eq_nil_iff.mp hr.symm
  rw [hall] at hparts
  obtain ⟨hopened, hnamed⟩ := opened_after_arguments
    (fun p hp => hparts p (List.mem_append_left _ hp))
    (s := (s.step (.name name)).step .openParen) rfl (opened_call name)
  have hlast : Closes left := hparts left (by simp)
  refine ⟨⟨s.place, 0 + done.length⟩, ?_⟩
  rw [hl, after_cons, after_cons, after_append, hlast.whole _ hnamed, hopened]

theorem Closes.called {part : List TokenKind} (hparts : ∀ p ∈ part :: parts, Closes p)
    (hargs : part :: parts = [[]] ∨ ∀ p ∈ part :: parts, IsArgument p) (name : String) :
    Closes (.name name :: .openParen :: (part ++ parts.flatMap ([.comma] ++ ·)) ++
      [.closeParen]) := by
  have hall : ∀ s : OpenParens, (s.after (.name name :: .openParen ::
      (part ++ parts.flatMap ([.comma] ++ ·)) ++ [.closeParen])).opened = s.opened := by
    intro s
    obtain ⟨call, hcall⟩ := opened_behind_arguments hparts s name
    rw [after_append, after_cons, after_nil, opened_step_close, hcall, List.tail_cons]
  refine ⟨fun s _ => hall s, fun s l r _ hcut => ?_⟩
  match l with
  | [] => exact ⟨[], rfl, .nil⟩
  | [k] =>
    obtain ⟨rfl, -⟩ := List.cons.inj hcut
    exact ⟨[], rfl, .nil⟩
  | k :: k' :: l =>
    simp only [List.cons_append, List.cons.injEq] at hcut
    obtain ⟨rfl, rfl, htail⟩ := hcut
    rcases append_cons_eq_append htail with ⟨right, hinside, rfl⟩ | ⟨left, rfl, hleft⟩
    · exact exists_opened_in_call hparts hargs s name hinside
    · obtain ⟨rfl, rfl⟩ := List.append_eq_nil_iff.mp hleft.symm
      exact ⟨[], hall s, .nil⟩

end Closes

/-! ## 5. Expressions -/

namespace Language

variable {n : Nat} {ks : List TokenKind} {e : Expr} {item : Form} {operators : List Operator}

theorem Chained.closes (hitem : ∀ ks e, item ks e → Closes ks)
    (h : Chained operators item ks e) : Closes ks := by
  obtain ⟨first, left, links, hfirst, hlinks, rfl, -⟩ := h
  have hrun : ∀ links : List Link, (∀ link ∈ links, item link.kinds link.operand) →
      ∀ first, Closes first → Closes (first ++ links.flatMap Link.tokens) := by
    intro links
    induction links with
    | nil =>
      intro _ first hfirst
      simpa using hfirst
    | cons link links ih =>
      intro hlinks first hfirst
      obtain ⟨hlink, hrest⟩ := List.forall_mem_cons.mp hlinks
      have hmore : Closes (first ++ link.tokens) :=
        hfirst.mark (by cases link.operator <;> rfl) (by cases link.operator <;> nofun)
          (hitem _ _ hlink)
      simpa using ih hrest _ hmore
  exact hrun links (fun link hlink => (hlinks link hlink).2) first (hitem _ _ hfirst)

theorem closes_wrapped (depth : Nat) (sheet : Option String) (address : CellRef) :
    Closes (wrapped depth sheet address) := by
  induction depth with
  | zero => exact .single rfl
  | succ depth ih =>
    rw [wrapped_succ]
    exact ih.group

theorem Ranged.closes (hitem : ∀ ks e, item ks e → Closes ks) (h : Ranged n item ks e) :
    Closes ks := by
  rcases h with h | ⟨depth, sheet, first, sheet', second, -, -, rfl, -⟩
  · exact hitem _ _ h
  · exact (closes_wrapped depth sheet first).mark rfl nofun (.single rfl)

theorem Comparison.closes (hitem : ∀ ks e, item ks e → Closes ks)
    (h : Comparison n item ks e) : Closes ks :=
  Chained.closes (fun _ _ => Chained.closes fun _ _ => Chained.closes fun _ _ =>
    Chained.closes fun _ _ => Ranged.closes hitem) h

theorem Single.closes (h : Single ks e) : Closes ks := by
  cases h <;> exact .single rfl

theorem Operand.closes (h : Operand n ks e) : Closes ks := by
  induction n generalizing ks e with
  | zero => exact Single.closes h
  | succ n ih =>
    have hbody : ∀ ks e, Expression n ks e → Closes ks := fun _ _ =>
      Comparison.closes fun _ _ => ih
    rcases h with h | ⟨inside, hinside, rfl⟩ | ⟨name, inside, args, ⟨parts, hparts, rfl, -⟩, rfl, -⟩
    · exact Single.closes h
    · exact (hbody _ _ hinside).group
    · cases parts with
      | nil =>
        have hnone : ∀ p ∈ [([] : List TokenKind)], Closes p := by simpa using Closes.nil
        exact Closes.called hnone (.inl rfl) name
      | cons part parts =>
        rw [List.map_cons, intercalate_cons]
        refine Closes.called (fun p hp => ?_) (.inr fun p hp => ?_) name
        all_goals
          rw [← List.map_cons] at hp
          obtain ⟨part, hpart, rfl⟩ := List.mem_map.mp hp
        · exact hbody _ _ (hparts part hpart)
        · exact ⟨n, _, hparts part hpart⟩

/-- **An expression closes what it opens.** -/
theorem Expression.closes (h : Expression n ks e) : Closes ks :=
  Comparison.closes (fun _ _ => Operand.closes) h

end Language

/-! ## 6. The calls around a place -/

section Around

variable {n : Nat} {ks before after : List TokenKind} {e : Expr} {call : OpenCall}

theorem IsArgument.closes (h : IsArgument ks) : Closes ks := by
  obtain ⟨n, e, h⟩ := h
  exact h.closes

/-- A call around a place has been left open. -/
theorem IsCallAround.mem_opened (h : IsCallAround before after call) :
    some call ∈ (OpenParens.after {} before).opened := by
  obtain ⟨front, name, inside, rest, back, hplace, rfl, -, done, left, right, todo, rfl, -, hlen,
    hargs⟩ := h
  have hparts : ∀ part ∈ done ++ (left ++ right) :: todo, Closes part := by
    rcases hargs with hnone | hargs
    · rw [hnone]
      simpa using Closes.nil
    · exact fun part hpart => (hargs part hpart).closes
  obtain ⟨inner, hopened, -⟩ := opened_in_call
    (fun part hpart => hparts part (List.mem_append_left _ hpart))
    (hparts (left ++ right) (by simp)) (OpenParens.after {} front) name
  rw [after_append, hopened, place_after]
  refine List.mem_append_right _ (List.mem_cons.mpr (.inl ?_))
  simp [hplace, hlen]

/-- **The calls left open in front of a place are the calls around it.** -/
theorem mem_opened_iff (h : Language.Expression n ks e)
    (hcut : .equals :: ks = before ++ after) :
    some call ∈ (OpenParens.after {} before).opened ↔ IsCallAround before after call := by
  refine ⟨fun hcall => ?_, IsCallAround.mem_opened⟩
  cases before with
  | nil => exact absurd hcall List.not_mem_nil
  | cons k before =>
    obtain ⟨rfl, hks⟩ := List.cons.inj hcut
    obtain ⟨inner, hopened, hcalls⟩ :=
      h.closes.cut (OpenParens.step {} .equals) before after rfl hks
    rw [after_cons, hopened, opened_step rfl, List.append_nil] at hcall
    obtain ⟨p, hp, haround⟩ := hcalls call hcall
    have hextended := haround.extend [.equals] []
    rw [List.append_nil] at hextended
    cases call with
    | mk place argument =>
      cases hp
      exact hextended

end Around

/-! ## 7. The innermost call -/

namespace OpenParens

variable {s : OpenParens} {k : TokenKind}

/-- The names of the calls that are open stand behind one another, the innermost last, and the
    parentheses behind them have gone by. -/
structure Ordered (s : OpenParens) : Prop where
  pairwise : (s.calls.map OpenCall.place).Pairwise (· > ·)
  behind : ∀ p ∈ s.calls.map OpenCall.place, p + 1 < s.place
  named : s.named = true → 0 < s.place

theorem places_passComma (opened : List (Option OpenCall)) :
    (passComma opened).reduceOption.map OpenCall.place =
      opened.reduceOption.map OpenCall.place := by
  match opened with
  | [] | none :: _ | some _ :: _ => rfl

theorem Ordered.step (h : Ordered s) (k : TokenKind) : Ordered (s.step k) := by
  have hkeep : ∀ opened : List (Option OpenCall), (s.step k).opened = opened →
      (opened.reduceOption.map OpenCall.place).Sublist (s.calls.map OpenCall.place) →
      Ordered (s.step k) := by
    rintro opened rfl hsub
    exact ⟨h.pairwise.sublist hsub, fun p hp => Nat.lt_succ_of_lt (h.behind p (hsub.subset hp)),
      fun _ => Nat.succ_pos _⟩
  by_cases hinner : k.isInner = true
  · exact hkeep _ (opened_step hinner) (List.Sublist.refl _)
  · cases k with
    | openParen =>
      cases hnamed : s.named with
      | false => exact hkeep _ (opened_group hnamed) (List.Sublist.refl _)
      | true =>
        have hpos := h.named hnamed
        have hcalls : (s.step .openParen).calls = ⟨s.place - 1, 0⟩ :: s.calls := by
          rw [calls, opened_named hnamed]
          rfl
        refine ⟨?_, fun p hp => ?_, fun _ => Nat.succ_pos _⟩
        · rw [hcalls, List.map_cons]
          refine List.pairwise_cons.mpr ⟨fun p hp => ?_, h.pairwise⟩
          have hlt := h.behind p hp
          show p < s.place - 1
          omega
        · rw [hcalls, List.map_cons] at hp
          rw [place_step]
          rcases List.mem_cons.mp hp with rfl | hp
          · show s.place - 1 + 1 < s.place + 1
            omega
          · exact Nat.lt_succ_of_lt (h.behind p hp)
    | closeParen =>
      have htail : s.opened.tail.reduceOption.Sublist s.calls :=
        (List.tail_sublist s.opened).filterMap id
      exact hkeep _ opened_step_close (htail.map _)
    | comma =>
      refine hkeep _ opened_step_comma ?_
      rw [places_passComma]
      exact List.Sublist.refl _
    | _ => exact absurd rfl hinner

/-- **The innermost call comes first.** -/
theorem ordered_after (ks : List TokenKind) : Ordered (OpenParens.after {} ks) := by
  have hrun : ∀ (ks : List TokenKind) (s : OpenParens), Ordered s → Ordered (s.after ks) := by
    intro ks
    induction ks with
    | nil => exact fun _ h => h
    | cons k ks ih => exact fun s h => ih _ (h.step k)
  exact hrun ks {} ⟨.nil, fun _ h => absurd h List.not_mem_nil, nofun⟩

end OpenParens

end Gridcalc
