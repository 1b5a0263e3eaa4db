import Gridcalc.Proofs.Formula.Derived

/-!
# What is derived is read

Tokens that derive a tree are read as that tree, in front of whatever may follow them.

* `Recognised`: how the tokens of a level are read, with what binds less strongly behind them;
* `Derives.recognised`: **what is derived is read**, one case for each rule of the grammar;
* `parseFormula_eq_iff`: **a formula is read without diagnostics exactly if its tokens derive its
  tree**.
-/

namespace Gridcalc

open ParseState

/-! ## 1. What is derived is read -/

/-- The tokens stand in front, and nothing goes wrong with them. -/
structure Before (s : ParseState) (ks : List TokenKind) : Prop where
  quiet : s.Quiet
  front : ks <+: s.kinds
  behind : (s.past ks).Quiet

section Before

variable {s : ParseState} {k : TokenKind} {ks ks' : List TokenKind}

theorem Before.left (h : Before s (ks ++ ks')) : Before s ks :=
  ⟨h.quiet, (prefix_append_iff.mp h.front).1, h.quiet.of_past h.behind⟩

theorem Before.right (h : Before s (ks ++ ks')) : Before (s.past ks) ks' :=
  ⟨h.left.behind, (prefix_append_iff.mp h.front).2, past_past s ks ks' ▸ h.behind⟩

theorem Before.current (h : Before s (k :: ks)) : s.current = k := current_of_prefix h.front

theorem Before.consume (h : Before s (k :: ks)) (hk : k.isOperator = false) :
    Before s.consume ks := by
  have hfront : Before s ([k] ++ ks) := h
  rw [consume_eq_past hk]
  exact hfront.right

theorem Before.length_lt (h : Before s (k :: ks)) :
    (s.past (k :: ks)).rest.length < s.rest.length := by
  have hle := h.front.length_le
  rw [kinds, List.length_map, List.length_cons] at hle
  rw [length_past_le, List.length_cons]
  omega

end Before

/-- How the tokens of a level are read. At the levels of operators reading goes on behind them; a
    call goes on behind its last argument. -/
structure Recognised (n : Nat) (level : Level) (ks : List TokenKind) (e : Expr) : Prop where
  goesOn : level.strength ≤ 4 → ∀ s, Before s ks → (s.past ks).current.tightness ≤ level.strength →
    ∃ fuel, (s.past ks).rest.length ≤ fuel ∧ levelParser (operand n) level s =
      extendChain level.operatorOf (levelParser (operand n) level.tighter) fuel e (s.past ks)
  reads : level ≠ .openCall → ∀ s, Before s ks →
    (s.past ks).current.tightness < level.strength →
    levelParser (operand n) level s = (some e, s.past ks)
  opens : level = .openCall → ∀ s, Before s ks → (s.past ks).current.tightness = 0 →
    ∃ m f args fuel, n = m + 1 ∧ e = .call f args ∧ (s.past ks).rest.length ≤ fuel ∧
      operand n s = (some (.call f
        (afterArgument (expression (operand m)) fuel args (s.past ks)).1),
        (afterArgument (expression (operand m)) fuel args (s.past ks)).2)

section Completeness

variable {n : Nat} {level : Level} {ks kl kr : List TokenKind} {k : TokenKind} {e l r : Expr}
  {op : Operator} {s : ParseState}

theorem levelParser_eq_chain (h : level.strength ≤ 4) (p : Parser) :
    levelParser p level = chain level.operatorOf (levelParser p level.tighter) := by
  cases level <;> first | rfl | exact absurd h (by decide)

theorem strength_lt_tighter (h : level.strength ≤ 4) :
    level.strength < level.tighter.strength ∧ level.tighter ≠ .openCall ∧ level ≠ .openCall := by
  cases level <;> first | decide | exact absurd h (by decide)

theorem extendChain_stop {p : Parser} {ops : TokenKind → Option Operator} (h : ops s.current = none)
    (fuel : Nat) (left : Expr) : extendChain ops p fuel left s = (some left, s) := by
  cases fuel with
  | zero => rfl
  | succ fuel =>
    rw [extendChain, h]

/-- Where reading goes on, it stops in front of what is no operator. -/
theorem Recognised.of_goesOn (hlevel : level.strength ≤ 4)
    (h : ∀ s, Before s ks → (s.past ks).current.tightness ≤ level.strength →
      ∃ fuel, (s.past ks).rest.length ≤ fuel ∧ levelParser (operand n) level s =
        extendChain level.operatorOf (levelParser (operand n) level.tighter) fuel e (s.past ks)) :
    Recognised n level ks e := by
  refine ⟨fun _ => h, fun _ s hs htight => ?_, fun hopen => ?_⟩
  · obtain ⟨fuel, -, hread⟩ := h s hs (Nat.le_of_lt htight)
    rw [hread, extendChain_stop (operatorOf_eq_none htight)]
  · exact absurd hopen (strength_lt_tighter hlevel).2.2

theorem Recognised.of_operand (h : ∀ s, Before s ks → (s.past ks).current.tightness < 6 →
    operand n s = (some e, s.past ks)) : Recognised n .operand ks e :=
  ⟨fun hstrength => absurd hstrength (by decide), fun _ => h, fun hopen => nomatch hopen⟩

theorem Recognised.of_range (h : ∀ s, Before s ks → (s.past ks).current.tightness < 5 →
    ranged (operand n) s = (some e, s.past ks)) : Recognised n .range ks e :=
  ⟨fun hstrength => absurd hstrength (by decide), fun _ => h, fun hopen => nomatch hopen⟩

theorem Recognised.tighter (h : Recognised n level.tighter ks e) : Recognised n level ks e := by
  by_cases hlevel : level.strength ≤ 4
  · obtain ⟨hlt, hopen, -⟩ := strength_lt_tighter hlevel
    refine .of_goesOn hlevel fun s hs htight => ⟨_, Nat.le_refl _, ?_⟩
    rw [levelParser_eq_chain hlevel, chain, h.reads hopen s hs (by omega)]
  · cases level with
    | range =>
      refine .of_range fun s hs htight => ?_
      have hread : operand n s = (some e, s.past ks) :=
        h.reads (by decide) s hs (Nat.lt_trans htight (by decide))
      have hcolon : (s.past ks).current ≠ .colon := by
        intro hcurrent
        rw [hcurrent] at htight
        exact absurd htight (by decide)
      rw [ranged, hread]
      dsimp only
      split
      · exact absurd ‹_› hcolon
      · exact absurd ‹_› hcolon
      · rfl
    | operand => exact h
    | openCall => exact h
    | _ => exact absurd (by decide) hlevel

theorem Recognised.binary (hop : level.operatorOf k = some op) (hl : Recognised n level kl l)
    (hr : Recognised n level.tighter kr r) :
    Recognised n level (kl ++ k :: kr) (.binary op l r) := by
  obtain ⟨hstrength, hoperator, -, hlevel⟩ := tightness_of_operatorOf hop
  obtain ⟨hlt, hopen, -⟩ := strength_lt_tighter hlevel
  refine .of_goesOn hlevel fun s hs htight => ?_
  have hright : Before (s.past kl) (k :: kr) := hs.right
  have hfront : Before (s.past kl) ([k] ++ kr) := hright
  have hcurrent := hright.current
  obtain ⟨fuel, hfuel, hread⟩ := hl.goesOn hlevel s hs.left
    (by rw [hcurrent, hstrength])
  have hshort := hright.length_lt
  obtain ⟨fuel, rfl⟩ : ∃ more, fuel = more + 1 := ⟨fuel - 1, by omega⟩
  rw [past_past] at hshort
  refine ⟨fuel, by omega, ?_⟩
  have hmore : (s.past kl).operators < maxOperators := by
    have hone := (hfront.left).behind.operators
    simp only [past, opCount, List.countP_cons, List.countP_nil, hoperator, if_true] at hone ⊢
    omega
  have hoperand : Before ((s.past kl).past [k]) kr := hfront.right
  have hlast : ((s.past kl).past [k]).past kr = s.past (kl ++ k :: kr) := by
    rw [past_past, past_past, List.singleton_append]
  rw [hread, extendChain, hcurrent, hop]
  dsimp only
  rw [if_neg (Nat.not_le.mpr hmore), passOperator_eq_past hoperator,
    hr.reads hopen _ hoperand (by rw [hlast]; omega), hlast]

theorem Recognised.range {sheet sheet' : Option String} {first second : CellRef}
    (h : Recognised n .operand ks (.cell sheet first)) (hagree : cornersAgree sheet sheet' = true) :
    Recognised n .range (ks ++ [.colon, .cell sheet' second]) (.range sheet ⟨first, second⟩) := by
  refine .of_range fun s hs _ => ?_
  have hcolon : Before (s.past ks) [.colon, .cell sheet' second] := hs.right
  have hread : operand n s = (some (.cell sheet first), s.past ks) :=
    h.reads (by decide) s hs.left (by rw [hcolon.current]; decide)
  have hcell := hcolon.consume rfl
  rw [ranged, hread]
  dsimp only
  rw [hcolon.current]
  dsimp only
  rw [hcell.current]
  dsimp only
  rw [if_pos hagree, consume_eq_past (k := .cell sheet' second) rfl,
    consume_eq_past (k := .colon) rfl, past_past, past_past]
  rfl

/-- Everything starts with a word or an opening parenthesis. -/
theorem Derives.head_ne (h : Derives n level ks e) : ∃ k ∈ ks.head?, k ≠ .closeParen := by
  induction h with
  | tighter _ ih => exact ih
  | binary _ _ _ ihl _ =>
    obtain ⟨k, hk, hne⟩ := ihl
    exact ⟨k, by rw [List.head?_append, hk]; rfl, hne⟩
  | range _ _ ih =>
    obtain ⟨k, hk, hne⟩ := ih
    exact ⟨k, by rw [List.head?_append, hk]; rfl, hne⟩
  | nextArgument _ _ ih _ =>
    obtain ⟨k, hk, hne⟩ := ih
    exact ⟨k, by rw [List.head?_append, hk]; rfl, hne⟩
  | call _ ih =>
    obtain ⟨k, hk, hne⟩ := ih
    exact ⟨k, by rw [List.head?_append, hk]; rfl, hne⟩
  | _ => exact ⟨_, rfl, by simp⟩

theorem Recognised.group (h : Recognised n .comparison ks e) :
    Recognised (n + 1) .operand (.openParen :: ks ++ [.closeParen]) e := by
  refine .of_operand fun s hs _ => ?_
  have hs' : Before s (.openParen :: (ks ++ [.closeParen])) := hs
  have hbody := hs'.consume rfl
  have hclose := hbody.right.current
  have hread : expression (operand n) s.consume = (some e, s.consume.past ks) :=
    h.reads (by decide) _ hbody.left (by rw [hclose]; decide)
  have hopen := hs'.current
  rw [operand]
  unfold operandWith
  rw [hopen]
  dsimp only
  rw [Gridcalc.group, hread]
  dsimp only
  rw [hclose]
  dsimp only
  rw [consume_eq_past (k := .openParen) rfl s, past_past, consume_eq_past (k := .closeParen) rfl,
    past_past]
  rfl

theorem operand_name {name : String} (hname : s.current = .name name)
    (hopens : opensCall s = true) :
    operand (n + 1) s = (some (functionCall (expression (operand n)) name s).1,
      (functionCall (expression (operand n)) name s).2) := by
  rw [operand]
  unfold operandWith
  rw [hname]
  dsimp only
  rw [if_pos hopens]

theorem Recognised.emptyCall (name : String) :
    Recognised (n + 1) .operand [.name name, .openParen, .closeParen]
      (.call (capitals name) []) := by
  refine .of_operand fun s hs _ => ?_
  have hopen := hs.consume rfl
  have hclose := hopen.consume rfl
  rw [operand_name hs.current (by rw [opensCall, hopen.current]; rfl), functionCall, hclose.current]
  dsimp only
  rw [consume_eq_past (k := .name name) rfl, consume_eq_past (k := .openParen) rfl,
    consume_eq_past (k := .closeParen) rfl, past_past, past_past]
  rfl

theorem Recognised.firstArgument (name : String) (hderives : Derives n .comparison ks e)
    (h : Recognised n .comparison ks e) :
    Recognised (n + 1) .openCall (.name name :: .openParen :: ks) (.call (capitals name) [e]) := by
  refine ⟨fun hstrength => absurd hstrength (by decide), fun hopen => absurd rfl hopen,
    fun _ s hs htight => ?_⟩
  have hopen := hs.consume rfl
  have hbody := hopen.consume rfl
  have hpast : s.consume.consume.past ks = s.past (.name name :: .openParen :: ks) := by
    rw [consume_eq_past (k := .name name) rfl, consume_eq_past (k := .openParen) rfl, past_past,
      past_past]
    rfl
  have hread : expression (operand n) s.consume.consume =
      (some e, s.past (.name name :: .openParen :: ks)) := by
    have hread := h.reads (by decide) _ hbody (by rw [hpast, htight]; decide)
    rwa [hpast] at hread
  obtain ⟨k, hk, hne⟩ := hderives.head_ne
  have hcurrent : s.consume.consume.current ≠ .closeParen := by
    cases ks with
    | nil => cases hk
    | cons k' ks =>
      cases hk
      rw [hbody.current]
      exact hne
  refine ⟨n, capitals name, [e], s.consume.consume.rest.length, rfl, rfl, ?_, ?_⟩
  · rw [← hpast, length_past_le]
    omega
  · rw [operand_name hs.current (by rw [opensCall, hopen.current]; rfl), functionCall]
    dsimp only
    split
    · exact absurd ‹_› hcurrent
    · rw [arguments_succ, hread]
      rfl

theorem Recognised.nextArgument {f : String} {args : List Expr}
    (hcall : Recognised (n + 1) .openCall kl (.call f args)) (h : Recognised n .comparison kr e) :
    Recognised (n + 1) .openCall (kl ++ .comma :: kr) (.call f (args ++ [e])) := by
  refine ⟨fun hstrength => absurd hstrength (by decide), fun hopen => absurd rfl hopen,
    fun _ s hs htight => ?_⟩
  have hcomma : Before (s.past kl) (.comma :: kr) := hs.right
  obtain ⟨m, f', args', fuel, hm, he, hfuel, hread⟩ :=
    hcall.opens rfl s hs.left (by rw [hcomma.current]; rfl)
  cases hm
  cases he
  have hshort := hcomma.length_lt
  rw [past_past] at hshort
  obtain ⟨fuel, rfl⟩ : ∃ more, fuel = more + 1 := ⟨fuel - 1, by omega⟩
  have hpast : (s.past kl).consume.past kr = s.past (kl ++ .comma :: kr) := by
    rw [consume_eq_past (k := .comma) rfl, past_past, past_past, List.singleton_append]
  have hargument : expression (operand n) (s.past kl).consume =
      (some e, s.past (kl ++ .comma :: kr)) := by
    have hread := h.reads (by decide) _ (hcomma.consume rfl) (by rw [hpast, htight]; decide)
    rwa [hpast] at hread
  have hafter : afterArgument (expression (operand n)) (fuel + 1) args (s.past kl) =
      afterArgument (expression (operand n)) fuel (args ++ [e]) (s.past (kl ++ .comma :: kr)) := by
    rw [afterArgument, hcomma.current]
    dsimp only
    rw [arguments_succ, hargument]
  refine ⟨n, f, args ++ [e], fuel, rfl, rfl, by omega, ?_⟩
  rw [hread, hafter]

theorem Recognised.call (h : Recognised n .openCall ks e) :
    Recognised n .operand (ks ++ [.closeParen]) e := by
  refine .of_operand fun s hs _ => ?_
  have hclose : Before (s.past ks) [.closeParen] := hs.right
  obtain ⟨m, f, args, fuel, -, rfl, -, hread⟩ :=
    h.opens rfl s hs.left (by rw [hclose.current]; rfl)
  rw [hread, afterArgument, hclose.current]
  dsimp only
  rw [consume_eq_past (k := .closeParen) rfl, past_past]

/-- An operand of one token. -/
theorem Recognised.single (hk : k.isOperator = false)
    (hread : ∀ s : ParseState, s.current = k → ∀ inner,
      operandWith inner s = (some e, s.consume)) : Recognised n .operand [k] e := by
  refine .of_operand fun s hs _ => ?_
  rw [← consume_eq_past hk]
  cases n <;> exact hread s hs.current _

theorem bareName_of_truthOf? {name : String} {b : Bool} (h : truthOf? name = some b)
    (s : ParseState) : bareName name s = (.boolean b, s.consume) := by
  unfold truthOf? at h
  unfold bareName
  split at h
  · rename_i htrue
    cases h
    rw [if_pos htrue]
  · rename_i htrue
    split at h
    · rename_i hfalse
      cases h
      rw [if_neg htrue, if_pos hfalse]
    · cases h

theorem Recognised.boolean {name : String} {b : Bool} (htruth : truthOf? name = some b) :
    Recognised n .operand [.name name] (.boolean b) := by
  refine .of_operand fun s hs htight => ?_
  have hopens : opensCall s = false := by
    rw [opensCall, consume_eq_past (k := .name name) rfl, beq_eq_false_iff_ne]
    intro hopen
    rw [hopen] at htight
    exact absurd htight (by decide)
  have hread : ∀ inner, operandWith inner s = (some (.boolean b), s.consume) := by
    intro inner
    unfold operandWith
    rw [hs.current]
    cases inner <;>
    · dsimp only
      rw [hopens, if_neg Bool.false_ne_true, bareName_of_truthOf? htruth]
  rw [← consume_eq_past (k := .name name) rfl]
  cases n <;> exact hread _

/-- **What is derived is read.** -/
theorem Derives.recognised (h : Derives n level ks e) : Recognised n level ks e := by
  induction h with
  | tighter _ ih => exact ih.tighter
  | binary hop _ _ ihl ihr => exact .binary hop ihl ihr
  | range _ hagree ih => exact ih.range hagree
  | number x => exact .single rfl fun s hs inner => by unfold operandWith; rw [hs]
  | text t => exact .single rfl fun s hs inner => by unfold operandWith; rw [hs]
  | error e => exact .single rfl fun s hs inner => by unfold operandWith; rw [hs]
  | cell sheet address => exact .single rfl fun s hs inner => by unfold operandWith; rw [hs]
  | boolean htruth => exact .boolean htruth
  | group _ ih => exact ih.group
  | emptyCall name => exact .emptyCall name
  | firstArgument name h ih => exact .firstArgument name h ih
  | nextArgument _ _ ihcall ih => exact .nextArgument ihcall ih
  | call _ ih => exact ih.call

end Completeness

/-! ## 2. Formulas -/

section Formulas

variable {formula : String} {e : Expr}

theorem kinds_ofChars (cs : List Char) : (ParseState.ofChars cs).kinds = kindsOf cs := rfl

theorem quiet_ofChars (cs : List Char) : (ParseState.ofChars cs).Quiet :=
  ⟨rfl, rfl, (spelled_scanFrom 0 cs).2, Nat.zero_le _⟩

theorem kinds_consume (s : ParseState) : s.consume.kinds = s.kinds.tail := by
  simp only [kinds, consume, List.map_tail]

/-- A formula that has been read without diagnostics. -/
theorem derives_of_parseFormula (h : parseFormula formula = ⟨some e, []⟩) :
    ∃ ks, kindsOf formula.toList = .equals :: ks ∧ Derives maxNesting .comparison ks e ∧
      opCount ks ≤ maxOperators := by
  let start := ParseState.ofChars formula.toList
  have hstart : start.Quiet := quiet_ofChars _
  have hquiet : start.consume.Quiet := hstart.consume
  unfold parseFormula at h
  dsimp only at h
  split at h
  case h_2 => simp at h
  rename_i hequals
  have hloud : ∀ s : ParseState, s.Loud →
      (if s.rest.isEmpty then s else s.report .trailing).Loud := by
    intro s hs
    split
    · exact hs
    · exact hs.report _
  rcases expression_faithful (keepsLoud_operand _) (operand_faithful maxNesting) _ hquiet with
    hbad | ⟨e', ks, hrun, hderives, hread, hlast⟩
  · simp only [ParsedFormula.mk.injEq] at h
    exact absurd h.2 (hloud _ hbad)
  rw [hread] at h
  simp only [ParsedFormula.mk.injEq, Option.some.injEq] at h
  obtain ⟨rfl, hnone⟩ := h
  have hrest : (start.consume.past ks).rest = [] := by
    by_contra hrest
    rw [if_neg (by simpa using hrest)] at hnone
    exact hlast.loud_report _ hnone
  have hall : ks = start.consume.kinds := by
    have hkinds : (start.consume.past ks).kinds = [] := by rw [kinds, hrest]; rfl
    rw [kinds_past, List.drop_eq_nil_iff] at hkinds
    exact hrun.eq_of_length_le hkinds
  refine ⟨ks, ?_, hderives, ?_⟩
  · obtain ⟨more, hmore⟩ := prefix_of_current hstart hequals (by simp)
    rw [hall, kinds_consume, ← kinds_ofChars, ← hmore]
    rfl
  · have hcount := hlast.operators
    have hzero : start.consume.operators = 0 := rfl
    simp only [past, hzero] at hcount
    omega

/-- Tokens that derive a tree are read without diagnostics. -/
theorem parseFormula_of_derives {ks : List TokenKind}
    (hkinds : kindsOf formula.toList = .equals :: ks) (h : Derives maxNesting .comparison ks e)
    (hcount : opCount ks ≤ maxOperators) : parseFormula formula = ⟨some e, []⟩ := by
  let start := ParseState.ofChars formula.toList
  have hstart : start.Quiet := quiet_ofChars _
  have hkinds : start.kinds = .equals :: ks := hkinds
  have hequals : start.current = .equals := by rw [current_eq, hkinds]; rfl
  have htail : start.consume.kinds = ks := by rw [kinds_consume, hkinds]; rfl
  have hlast : (start.consume.past ks).Quiet := by
    refine ⟨rfl, rfl, hstart.finish, ?_⟩
    have hzero : start.consume.operators = 0 := rfl
    simp only [past, hzero]
    omega
  have hbefore : Before start.consume ks :=
    ⟨hstart.consume, htail ▸ List.prefix_rfl, hlast⟩
  have hrest : (start.consume.past ks).rest = [] := by
    have hnone : (start.consume.past ks).kinds = [] := by
      rw [kinds_past, htail, List.drop_length]
    exact List.map_eq_nil_iff.mp hnone
  have hcurrent : (start.consume.past ks).current.tightness < Level.strength .comparison := by
    have hfinish : (start.consume.past ks).current = .finish := by
      rw [ParseState.current, ParseState.head, hrest]
      exact hlast.finish
    rw [hfinish]
    decide
  have hread : expression (operand maxNesting) start.consume =
      (some e, start.consume.past ks) :=
    h.recognised.reads (by decide) _ hbefore hcurrent
  unfold parseFormula
  dsimp only
  rw [hequals]
  dsimp only
  rw [hread]
  dsimp only
  rw [hrest]
  rfl

/-- **A formula is read without diagnostics exactly if its tokens derive its tree**: an equals sign
    and an expression with groups and calls nested not too deeply and not too many operators. -/
theorem parseFormula_eq_iff : parseFormula formula = ⟨some e, []⟩ ↔
    ∃ ks, kindsOf formula.toList = .equals :: ks ∧ Derives maxNesting .comparison ks e ∧
      opCount ks ≤ maxOperators :=
  ⟨derives_of_parseFormula, fun ⟨_, hkinds, h, hcount⟩ =>
    parseFormula_of_derives hkinds h hcount⟩

end Formulas

end Gridcalc
