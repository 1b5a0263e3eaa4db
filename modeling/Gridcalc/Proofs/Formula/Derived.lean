import Gridcalc.Proofs.Formula.Grammar

/-!
# What is read is derived

A reader that has read a tree without a diagnostic has read tokens that derive the tree. One proof
for each reader, from operands to expressions, and one induction over the nesting.

* `KeepsLoud`: what has gone wrong stays wrong, so that only quiet readings have to be looked at;
* `Faithful`, `operand_faithful`, `expression_faithful`: **what is read is derived**.
-/

namespace Gridcalc

open ParseState

/-! ## 1. What has gone wrong stays wrong -/

/-- A reader after which nothing is as if nothing had gone wrong. -/
def KeepsLoud (p : Parser) : Prop := ∀ s : ParseState, s.Loud → (p s).2.Loud

section Loud

variable {p : Parser} {ops : TokenKind → Option Operator} {s : ParseState}

theorem loud_extendChain (hp : KeepsLoud p) (fuel : Nat) (left : Expr) (h : s.Loud) :
    (extendChain ops p fuel left s).2.Loud := by
  induction fuel generalizing left s with
  | zero => exact h
  | succ fuel ih =>
    unfold extendChain
    split
    · exact h
    · split
      · exact h.abandon _
      · have hright := hp s.passOperator h.passOperator
        split
        · rename_i s' heq
          rw [heq] at hright
          exact hright
        · rename_i right s' heq
          rw [heq] at hright
          exact ih _ hright

/-- A chain that went wrong at its first operand. -/
theorem loud_chain (hp : KeepsLoud p) (hfirst : (p s).2.Loud) : (chain ops p s).2.Loud := by
  unfold chain
  split
  · rename_i s' heq
    rw [heq] at hfirst
    exact hfirst
  · rename_i left s' heq
    rw [heq] at hfirst
    exact loud_extendChain hp _ _ hfirst

theorem keepsLoud_chain (hp : KeepsLoud p) : KeepsLoud (chain ops p) := fun s h =>
  loud_chain hp (hp s h)

/-- A range that went wrong at its first corner. -/
theorem loud_ranged (hfirst : (p s).2.Loud) : (ranged p s).2.Loud := by
  unfold ranged
  split
  · rename_i s' heq
    rw [heq] at hfirst
    exact hfirst
  · rename_i left s' heq
    rw [heq] at hfirst
    have hfirst : s'.Loud := hfirst
    dsimp only
    split
    · split
      · split
        · exact hfirst
        · exact Loud.report (s := s'.consume) hfirst _
      · exact Loud.report (s := s'.consume) hfirst _
    · exact hfirst.report _
    · exact hfirst

theorem keepsLoud_ranged (hp : KeepsLoud p) : KeepsLoud (ranged p) := fun s h =>
  loud_ranged (hp s h)

theorem keepsLoud_levelParser (hp : KeepsLoud p) (level : Level) :
    KeepsLoud (levelParser p level) := by
  cases level with
  | comparison =>
    exact keepsLoud_chain
      (keepsLoud_chain (keepsLoud_chain (keepsLoud_chain (keepsLoud_ranged hp))))
  | join => exact keepsLoud_chain (keepsLoud_chain (keepsLoud_chain (keepsLoud_ranged hp)))
  | sum => exact keepsLoud_chain (keepsLoud_chain (keepsLoud_ranged hp))
  | product => exact keepsLoud_chain (keepsLoud_ranged hp)
  | range => exact keepsLoud_ranged hp
  | operand => exact hp
  | openCall => exact hp

/-- What is done behind an argument. -/
def afterArgument (p : Parser) (fuel : Nat) (args : List Expr) (s : ParseState) :
    List Expr × ParseState :=
  match s.current with
  | .comma => arguments p fuel args s.consume
  | .closeParen => (args, s.consume)
  | .finish => (args, s.report .noSeparator)
  | _ =>
    let s := (s.report .noSeparator).skipArgument
    match s.current with
    | .comma => arguments p fuel args s.consume
    | .closeParen => (args, s.consume)
    | _ => (args, s)

theorem arguments_succ (p : Parser) (fuel : Nat) (args : List Expr) (s : ParseState) :
    arguments p (fuel + 1) args s = match p s with
      | (some e, s) => afterArgument p fuel (args ++ [e]) s
      | (none, s) => afterArgument p fuel args s.skipArgument := by
  rw [arguments]
  cases p s with
  | mk e s' => cases e <;> rfl

theorem loud_afterArgument {fuel : Nat} {args : List Expr}
    (hmore : ∀ s : ParseState, s.Loud → (arguments p fuel args s).2.Loud) (h : s.Loud) :
    (afterArgument p fuel args s).2.Loud := by
  have hskip : ((s.report .noSeparator).skipArgument).Loud := (h.report _).skipArgument
  unfold afterArgument
  split
  · exact hmore _ h.consume
  · exact h
  · exact h.report _
  · dsimp only
    split
    · exact hmore _ hskip.consume
    · exact hskip
    · exact hskip

theorem loud_arguments (hp : KeepsLoud p) (fuel : Nat) (args : List Expr) (h : s.Loud) :
    (arguments p fuel args s).2.Loud := by
  induction fuel generalizing args s with
  | zero => exact h
  | succ fuel ih =>
    have hfirst := hp s h
    rw [arguments_succ]
    split
    · rename_i e s' heq
      rw [heq] at hfirst
      exact loud_afterArgument (fun s hs => ih _ hs) hfirst
    · rename_i s' heq
      rw [heq] at hfirst
      exact loud_afterArgument (fun s hs => ih _ hs) (Loud.skipArgument hfirst)

theorem loud_functionCall (hp : KeepsLoud p) (name : String) (h : s.Loud) :
    (functionCall p name s).2.Loud := by
  unfold functionCall
  dsimp only
  split
  · exact h
  · exact loud_arguments hp _ _ h

theorem loud_bareName (name : String) (h : s.Loud) : (bareName name s).2.Loud := by
  unfold bareName
  split
  · exact h
  · split
    · exact h
    · exact (h.report _).consume

theorem keepsLoud_operandWith {inner : Option Parser} (hp : ∀ p ∈ inner, KeepsLoud p) :
    KeepsLoud (operandWith inner) := by
  intro s h
  unfold operandWith
  split
  · exact h
  · exact h
  · exact h
  · exact h
  · rename_i p hcurrent
    have hbody := hp p rfl s.consume h
    unfold group
    dsimp only
    split
    · exact hbody
    · exact Loud.report hbody _
  · exact h.abandon _
  · split
    · split
      · rename_i p
        exact loud_functionCall (hp p rfl) _ h
      · exact h.abandon _
    · exact loud_bareName _ h
  · exact h.report _
  · exact h.report _
  · exact h.report _

theorem keepsLoud_operand (n : Nat) : KeepsLoud (operand n) := by
  induction n with
  | zero => exact keepsLoud_operandWith fun p hp => nomatch hp
  | succ n ih =>
    refine keepsLoud_operandWith ?_
    rintro p ⟨⟩
    exact keepsLoud_levelParser ih .comparison

end Loud

/-! ## 2. What is read is derived -/

/-- Something has gone wrong, or the tokens that have been read derive the tree. -/
def Derived (n : Nat) (level : Level) (s : ParseState) (read : Option Expr × ParseState) : Prop :=
  read.2.Loud ∨ ∃ e ks, ks <+: s.kinds ∧ Derives n level ks e ∧ read = (some e, s.past ks) ∧
    (s.past ks).Quiet

/-- What the reader reads while nothing goes wrong is derived at a level. -/
def Faithful (p : Parser) (n : Nat) (level : Level) : Prop :=
  ∀ s : ParseState, s.Quiet → Derived n level s (p s)

section Faithful

variable {p : Parser} {n : Nat} {level : Level} {s : ParseState}

/-- Going on with operators behind `left` makes longer trees of the same level. -/
theorem extendChain_faithful (hkeeps : KeepsLoud p) (hp : Faithful p n level.tighter) (fuel : Nat)
    (left : Expr) (hs : s.Quiet) :
    (extendChain level.operatorOf p fuel left s).2.Loud ∨ ∃ e ks, ks <+: s.kinds ∧
      (∀ kl, Derives n level kl left → Derives n level (kl ++ ks) e) ∧
      extendChain level.operatorOf p fuel left s = (some e, s.past ks) ∧ (s.past ks).Quiet := by
  have hstop : ∃ e ks, ks <+: s.kinds ∧
      (∀ kl, Derives n level kl left → Derives n level (kl ++ ks) e) ∧
      (some left, s) = (some e, s.past ks) ∧ (s.past ks).Quiet :=
    ⟨left, [], List.nil_prefix, fun kl h => by rwa [List.append_nil], rfl, hs⟩
  induction fuel generalizing left s with
  | zero => exact .inr hstop
  | succ fuel ih =>
    unfold extendChain
    split
    · exact .inr hstop
    rename_i op hop
    obtain ⟨-, hoperator, hne, -⟩ := tightness_of_operatorOf hop
    split
    · exact .inl (hs.loud_abandon _)
    rename_i hmax
    have hfront := prefix_of_current hs rfl hne
    have hquiet := hs.passOperator (Nat.not_le.mp hmax)
    rw [passOperator_eq_past hoperator] at hquiet ⊢
    rcases hp _ hquiet with hloud | ⟨right, kr, hrun, hright, hread, hquiet'⟩
    · left
      split
      · rename_i s' heq
        rw [heq] at hloud
        exact hloud
      · rename_i right s' heq
        rw [heq] at hloud
        exact loud_extendChain hkeeps _ _ hloud
    · rw [hread]
      dsimp only
      rw [past_past] at hquiet' ⊢
      have hfront' := prefix_append_iff.mpr ⟨hfront, hrun⟩
      refine (ih (.binary op left right) hquiet' ⟨_, [], List.nil_prefix,
        fun kl h => by rwa [List.append_nil], rfl, hquiet'⟩).imp_right ?_
      rintro ⟨e, ks, hks, hextends, heq, hlast⟩
      refine ⟨e, [s.current] ++ kr ++ ks, prefix_append_iff.mpr ⟨hfront', hks⟩, fun kl hl => ?_, ?_,
        ?_⟩
      · have hbinary := hextends _ (.binary hop hl hright)
        simpa using hbinary
      · rw [heq, past_past]
      · rwa [past_past] at hlast

theorem chain_faithful (level : Level) (hkeeps : KeepsLoud p) (hp : Faithful p n level.tighter) :
    Faithful (chain level.operatorOf p) n level := by
  intro s hs
  rcases hp s hs with hloud | ⟨left, kl, hrun, hleft, hread, hquiet⟩
  · exact .inl (loud_chain hkeeps hloud)
  · rw [chain, hread]
    dsimp only
    refine (extendChain_faithful hkeeps hp _ left hquiet).imp_right ?_
    rintro ⟨e, ks, hks, hextends, heq, hlast⟩
    rw [past_past] at heq hlast
    exact ⟨e, kl ++ ks, prefix_append_iff.mpr ⟨hrun, hks⟩, hextends kl (.tighter hleft), heq,
      hlast⟩

theorem ranged_faithful (hp : Faithful p n .operand) : Faithful (ranged p) n .range := by
  intro s hs
  rcases hp s hs with hloud | ⟨left, kl, hrun, hleft, hread, hquiet⟩
  · exact .inl (loud_ranged hloud)
  · rw [ranged, hread]
    dsimp only
    split
    · rename_i sheet first hcurrent
      obtain ⟨hcolon, hconsume, hquiet'⟩ := hquiet.next hrun hcurrent rfl (by simp)
      rw [hconsume]
      split
      · rename_i sheet' second hcurrent'
        split
        · rename_i hagree
          right
          obtain ⟨hfront, hlast, hquiet''⟩ := hquiet'.next hcolon hcurrent' rfl (by simp)
          rw [List.append_assoc] at hfront hlast hquiet''
          refine ⟨_, _, hfront, .range hleft hagree, ?_, hquiet''⟩
          rw [hlast]
        · exact .inl (hquiet'.loud_report _).consume
      · exact .inl (hquiet'.loud_report _)
    · exact .inl (hquiet.loud_report _)
    · exact .inr ⟨_, kl, hrun, .tighter hleft, rfl, hquiet⟩

theorem expression_faithful (hkeeps : KeepsLoud p) (hp : Faithful p n .operand) :
    Faithful (expression p) n .comparison :=
  chain_faithful .comparison (keepsLoud_levelParser hkeeps .join) <|
    chain_faithful .join (keepsLoud_levelParser hkeeps .sum) <|
      chain_faithful .sum (keepsLoud_levelParser hkeeps .product) <|
        chain_faithful .product (keepsLoud_levelParser hkeeps .range) <| ranged_faithful hp

/-- Something has gone wrong, or the tokens that have been read are the rest of a call of `f` behind
    `front`. -/
def DerivedCall (f : String) (n : Nat) (front : List TokenKind) (s : ParseState)
    (read : List Expr × ParseState) : Prop :=
  read.2.Loud ∨ ∃ args ks, ks <+: s.kinds ∧
    Derives (n + 1) .operand (front ++ ks) (.call f args) ∧ read = (args, s.past ks) ∧
    (s.past ks).Quiet

section Arguments

variable {f : String} {front ks : List TokenKind} {args : List Expr} {fuel : Nat}

theorem DerivedCall.behind {read : List Expr × ParseState} (hrun : ks <+: s.kinds)
    (h : DerivedCall f n (front ++ ks) (s.past ks) read) : DerivedCall f n front s read := by
  refine h.imp_right ?_
  rintro ⟨args, ks', hks', hderives, heq, hlast⟩
  rw [past_past] at heq hlast
  rw [List.append_assoc] at hderives
  exact ⟨args, ks ++ ks', prefix_append_iff.mpr ⟨hrun, hks'⟩, hderives, heq, hlast⟩

/-- Behind an argument the call ends or goes on with a comma. -/
theorem afterArgument_faithful (hkeeps : KeepsLoud p) (hs : s.Quiet)
    (hopen : Derives (n + 1) .openCall front (.call f args))
    (hmore : [.comma] <+: s.kinds → (s.past [.comma]).Quiet →
      DerivedCall f n (front ++ [.comma]) (s.past [.comma])
        (arguments p fuel args (s.past [.comma]))) :
    DerivedCall f n front s (afterArgument p fuel args s) := by
  unfold afterArgument
  split
  · rename_i hcurrent
    obtain ⟨hcomma, hconsume, hquiet⟩ := hs.first hcurrent rfl (by simp)
    rw [hconsume]
    exact (hmore hcomma hquiet).behind hcomma
  · rename_i hcurrent
    obtain ⟨hclose, hconsume, hquiet⟩ := hs.first hcurrent rfl (by simp)
    exact .inr ⟨args, [.closeParen], hclose, .call hopen, by rw [hconsume], hquiet⟩
  · exact .inl (hs.loud_report _)
  · have hskip : ((s.report .noSeparator).skipArgument).Loud := (hs.loud_report _).skipArgument
    left
    dsimp only
    split
    · exact loud_arguments hkeeps _ _ hskip.consume
    · exact hskip
    · exact hskip

/-- Further arguments of a call make up the rest of it. -/
theorem arguments_faithful (hkeeps : KeepsLoud p) (hp : Faithful p n .comparison) (fuel : Nat)
    (args : List Expr) (front : List TokenKind) (hs : s.Quiet) (hfuel : s.rest.length < fuel)
    (hfront : ∀ ks e, Derives n .comparison ks e →
      Derives (n + 1) .openCall (front ++ ks) (.call f (args ++ [e]))) :
    DerivedCall f n front s (arguments p fuel args s) := by
  induction fuel generalizing args s front with
  | zero => exact absurd hfuel (Nat.not_lt_zero _)
  | succ fuel ih =>
    have hafter : ∀ (args : List Expr) (s : ParseState), s.Loud →
        (afterArgument p fuel args s).2.Loud := fun args s hs =>
      loud_afterArgument (fun s hs => loud_arguments hkeeps fuel args hs) hs
    rw [arguments_succ]
    rcases hp s hs with hloud | ⟨e, ks, hrun, hargument, hread, hquiet⟩
    · left
      split
      · rename_i e s' heq
        rw [heq] at hloud
        exact hafter _ _ hloud
      · rename_i s' heq
        rw [heq] at hloud
        exact hafter _ _ (Loud.skipArgument hloud)
    · rw [hread]
      dsimp only
      have hopen := hfront ks e hargument
      refine (afterArgument_faithful hkeeps hquiet hopen fun hcomma hquiet' => ?_).behind hrun
      have hlength : ((s.past ks).past [.comma]).rest.length < fuel := by
        have hle := hcomma.length_le
        rw [kinds, List.length_map, List.length_singleton, length_past_le] at hle
        rw [length_past_le, length_past_le, List.length_singleton]
        omega
      refine ih (args ++ [e]) (front ++ ks ++ [.comma]) hquiet' hlength fun ks' e' h' => ?_
      rw [List.append_assoc (front ++ ks)]
      exact .nextArgument hopen h'

end Arguments

/-- An operand of one token. -/
theorem faithful_single {k : TokenKind} {e : Expr} {read : Option Expr × ParseState}
    (hs : s.Quiet) (hcurrent : s.current = k) (hk : k.isOperator = false) (hne : k ≠ .finish)
    (hread : read = (some e, s.consume)) (h : Derives n .operand [k] e) :
    Derived n .operand s read := by
  obtain ⟨hfront, hconsume, hquiet⟩ := hs.first hcurrent hk hne
  exact .inr ⟨e, [k], hfront, h, hconsume ▸ hread, hquiet⟩

theorem group_faithful (hp : Faithful p n .comparison) (hs : s.Quiet)
    (hcurrent : s.current = .openParen) : Derived (n + 1) .operand s (group p s) := by
  obtain ⟨hopen, hconsume, hquiet⟩ := hs.first hcurrent rfl (by simp)
  unfold group
  rw [hconsume]
  rcases hp _ hquiet with hloud | ⟨e, ks, hrun, hbody, hread, hquiet'⟩
  · left
    dsimp only
    split
    · exact hloud
    · exact Loud.report hloud _
  · rw [hread]
    dsimp only
    rw [past_past] at hquiet' ⊢
    have hfront := prefix_append_iff.mpr ⟨hopen, hrun⟩
    split
    · rename_i hcurrent'
      obtain ⟨hclose, hlast, hquiet''⟩ := hquiet'.next hfront hcurrent' rfl (by simp)
      exact .inr ⟨e, _, hclose, .group hbody, by rw [hlast], hquiet''⟩
    · exact .inl (hquiet'.loud_report _)

theorem functionCall_faithful (hkeeps : KeepsLoud p) (hp : Faithful p n .comparison) {name : String}
    (hs : s.Quiet) (hcurrent : s.current = .name name) (hopens : opensCall s = true) :
    Derived (n + 1) .operand s (some (functionCall p name s).1, (functionCall p name s).2) := by
  have hcurrent' : s.consume.current = .openParen := by simpa [opensCall] using hopens
  obtain ⟨hname, hconsume, hquiet⟩ := hs.first hcurrent rfl (by simp)
  rw [hconsume] at hcurrent'
  obtain ⟨hfront, hopen, hquiet'⟩ := hquiet.next hname hcurrent' rfl (by simp)
  unfold functionCall
  rw [hconsume, hopen]
  dsimp only
  split
  · rename_i hclose
    obtain ⟨hfront', hlast, hquiet''⟩ := hquiet'.next hfront hclose rfl (by simp)
    exact .inr ⟨_, _, hfront', .emptyCall name, by rw [hlast]; rfl, hquiet''⟩
  · refine (arguments_faithful hkeeps hp (f := capitals name) _ [] [.name name, .openParen] hquiet'
      (Nat.lt_succ_self _) fun ks e h => .firstArgument name h).imp_right ?_
    rintro ⟨args, ks, hrun, hderives, heq, hlast⟩
    rw [past_past] at heq hlast
    refine ⟨_, _, prefix_append_iff.mpr ⟨hfront, hrun⟩, hderives, ?_, hlast⟩
    rw [heq]
    rfl

theorem bareName_faithful {name : String} (hs : s.Quiet) (hcurrent : s.current = .name name) :
    Derived n .operand s (some (bareName name s).1, (bareName name s).2) := by
  obtain ⟨hname, hconsume, hquiet⟩ := hs.first hcurrent rfl (by simp)
  unfold bareName
  rw [hconsume]
  split
  · rename_i htrue
    exact .inr ⟨_, _, hname, .boolean (by rw [truthOf?, if_pos htrue]), rfl, hquiet⟩
  · rename_i htrue
    split
    · rename_i hfalse
      refine .inr ⟨_, _, hname, .boolean ?_, rfl, hquiet⟩
      rw [truthOf?, if_neg htrue, if_pos hfalse]
    · exact .inl (hs.loud_report _).consume

theorem operandWith_faithful {inner : Option Parser} {m : Nat}
    (hinner : ∀ p ∈ inner, ∃ n, m = n + 1 ∧ KeepsLoud p ∧ Faithful p n .comparison) :
    Faithful (operandWith inner) m .operand := by
  intro s hs
  unfold operandWith
  split
  · rename_i x hcurrent
    exact faithful_single hs hcurrent rfl (by simp) rfl (.number x)
  · rename_i t hcurrent
    exact faithful_single hs hcurrent rfl (by simp) rfl (.text t)
  · rename_i e hcurrent
    exact faithful_single hs hcurrent rfl (by simp) rfl (.error e)
  · rename_i sheet address hcurrent
    exact faithful_single hs hcurrent rfl (by simp) rfl (.cell sheet address)
  · rename_i p hcurrent
    obtain ⟨n, rfl, -, hp⟩ := hinner p rfl
    exact group_faithful hp hs hcurrent
  · exact .inl (hs.loud_abandon _)
  · rename_i name hcurrent
    split
    · rename_i hopens
      split
      · rename_i p
        obtain ⟨n, rfl, hkeeps, hp⟩ := hinner p rfl
        exact functionCall_faithful hkeeps hp hs hcurrent hopens
      · exact .inl (hs.loud_abandon _)
    · exact bareName_faithful hs hcurrent
  · exact .inl (hs.loud_report _)
  · exact .inl (hs.loud_report _)
  · exact .inl (hs.loud_report _)

theorem operand_faithful (n : Nat) : Faithful (operand n) n .operand := by
  induction n with
  | zero => exact operandWith_faithful fun p hp => nomatch hp
  | succ n ih =>
    refine operandWith_faithful ?_
    rintro p ⟨⟩
    exact ⟨n, rfl, keepsLoud_levelParser (keepsLoud_operand n) .comparison,
      expression_faithful (keepsLoud_operand n) ih⟩

end Faithful

end Gridcalc
