import Gridcalc.Proofs.Formula.Limits
import Gridcalc.Proofs.Formula.Recognised

/-!
# Reading with counted levels

The readers once more as loops and calls of themselves, with a counter of the groups and calls that
are open. Nothing but the counter ends the nesting, and nothing but the text ends a loop; what is
left of `rounds` only says whether an end has been reached yet.

* `Counted`, `Counted.enter`, `Counted.leave`: the counter;
* `countedLevel`, `countedOperand`, `countedFormula`: the readers;
* `Agrees`, `Mirrors`: a counted reader ends, finds what the plain one finds, and leaves the counter
  as it was;
* `mirrors_operand`: **every way through a reader closes the levels that it has opened**;
* `parseFormula_bounded`: **all formulas are read to an end, as small trees, with few open levels**.
-/

namespace Gridcalc

open ParseState

/-! ## 1. Readers with a counter -/

/-- The state of reading, the groups and calls that are open, and how many were open at most. -/
structure Counted where
  state : ParseState
  depth : Nat := 0
  peak : Nat := 0

namespace Counted

/-- A step that opens and closes nothing. -/
def on (c : Counted) (f : ParseState → ParseState) : Counted := { c with state := f c.state }

/-- Opens a level; where too many are open the rest of the text is left out instead. -/
def enter (c : Counted) : Bool × Counted :=
  if maxNesting ≤ c.depth then (false, c.on (·.abandon .tooDeep))
  else (true, { c with depth := c.depth + 1, peak := max c.peak (c.depth + 1) })

/-- Closes a level. -/
def leave (c : Counted) : Counted := { c with depth := c.depth - 1 }

end Counted

/-- A reader with a counter; it finds nothing where the rounds do not suffice. -/
abbrev CountedReader := Counted → Option (Option Expr × Counted)

/-- Operators and right operands behind `left`, as long as there are some. -/
def countedChainFrom (ops : TokenKind → Option Operator) (operand : CountedReader) :
    Nat → Expr → CountedReader
  | 0, _, _ => none
  | rounds + 1, left, c =>
    match ops c.state.current with
    | none => some (some left, c)
    | some op =>
      if maxOperators ≤ c.state.operators then
        some (some left, c.on (·.abandon .tooManyOperators))
      else do
        match ← operand (c.on passOperator) with
        | (none, c) => some (some left, c)
        | (some right, c) => countedChainFrom ops operand rounds (.binary op left right) c

def countedChain (rounds : Nat) (ops : TokenKind → Option Operator) (operand : CountedReader) :
    CountedReader := fun c => do
  match ← operand c with
  | (none, c) => some (none, c)
  | (some left, c) => countedChainFrom ops operand rounds left c

/-- An operand and a colon behind it. What stands behind the colon opens no level. -/
def countedRange (operand : CountedReader) : CountedReader := fun c => do
  let (e, c) ← operand c
  let (e, s) := ranged (fun s => (e, s)) c.state
  some (e, { c with state := s })

def countedLevel (rounds : Nat) (operand : CountedReader) (level : Level) : CountedReader :=
  let product := countedChain rounds productOf (countedRange operand)
  let sum := countedChain rounds sumOf product
  let join := countedChain rounds joinOf sum
  match level with
  | .comparison => countedChain rounds comparisonOf join
  | .join => join
  | .sum => sum
  | .product => product
  | .range => countedRange operand
  | _ => operand

/-- What is done behind an argument; `more` reads further ones. -/
def countedAfterArgument (more : List Expr → Counted → Option (List Expr × Counted))
    (args : List Expr) (c : Counted) : Option (List Expr × Counted) :=
  match c.state.current with
  | .comma => more args (c.on consume)
  | .closeParen => some (args, c.on consume)
  | .finish => some (args, c.on (·.report .noSeparator))
  | _ =>
    let c := c.on fun s => (s.report .noSeparator).skipArgument
    match c.state.current with
    | .comma => more args (c.on consume)
    | .closeParen => some (args, c.on consume)
    | _ => some (args, c)

/-- Arguments up to the closing parenthesis of a call. -/
def countedArguments (inner : CountedReader) :
    Nat → List Expr → Counted → Option (List Expr × Counted)
  | 0, _, _ => none
  | rounds + 1, args, c => do
    match ← inner c with
    | (some e, c) => countedAfterArgument (countedArguments inner rounds) (args ++ [e]) c
    | (none, c) => countedAfterArgument (countedArguments inner rounds) args (c.on skipArgument)

/-- A call whose name and opening parenthesis are in front. -/
def countedCall (rounds : Nat) (inner : CountedReader) (name : String) (c : Counted) :
    Option (Expr × Counted) := do
  let capitals := String.ofList (Text.uppercase name.toList)
  let c := c.on (·.consume.consume)
  match c.state.current with
  | .closeParen => some (.call capitals [], c.on consume)
  | _ =>
    let (args, c) ← countedArguments inner rounds [] c
    some (.call capitals args, c)

/-- A group whose opening parenthesis is in front. -/
def countedGroup (inner : CountedReader) : CountedReader := fun c => do
  let (e, c) ← inner (c.on consume)
  match c.state.current with
  | .closeParen => some (e, c.on consume)
  | _ => some (e, c.on (·.report .unclosedGroup))

/-- An operand; groups and calls are read between `enter` and `leave`. -/
def countedPrimary (rounds : Nat) (inner : CountedReader) : CountedReader := fun c =>
  match c.state.current with
  | .openParen =>
    match c.enter with
    | (false, c) => some (none, c)
    | (true, c) => do
      let (e, c) ← countedGroup inner c
      some (e, c.leave)
  | .name name =>
    if opensCall c.state then
      match c.enter with
      | (false, c) => some (none, c)
      | (true, c) => do
        let (e, c) ← countedCall rounds inner name c
        some (some e, c.leave)
    else
      let (e, s) := bareName name c.state
      some (some e, { c with state := s })
  | _ =>
    let (e, s) := operandWith none c.state
    some (e, { c with state := s })

/-- An operand with as many rounds for each loop; `calls` is how often operands may still be read
    inside of one another. -/
def countedOperand (rounds : Nat) : (calls : Nat) → CountedReader
  | 0 => fun _ => none
  | calls + 1 =>
    countedPrimary rounds (countedLevel rounds (countedOperand rounds calls) .comparison)

/-- A formula, the levels that are still open behind it, and how many were open at most. -/
def countedFormula (rounds : Nat) (formula : String) : Option (ParsedFormula × Nat × Nat) :=
  let s := ParseState.ofChars formula.toList
  match s.current with
  | .equals => do
    let (root, c) ← countedLevel rounds (countedOperand rounds rounds) .comparison ⟨s.consume, 0, 0⟩
    let s := if c.state.rest.isEmpty then c.state else c.state.report .trailing
    some ({ root, diagnostics := s.diagnostics }, c.depth, c.peak)
  | kind => some ({ root := none, diagnostics := [⟨kind, 0, .noEqualsSign⟩] }, 0, 0)

/-! ## 2. Agreement -/

/-- From a state with a counter something is found that is found without a counter too. As many
    levels are open as before, and not too many were. -/
def Agrees {α : Type} (c : Counted) (counted : Option (α × Counted)) (plain : α × ParseState) :
    Prop :=
  ∃ peak, c.peak ≤ peak ∧ peak ≤ max c.peak maxNesting ∧
    counted = some (plain.1, ⟨plain.2, c.depth, peak⟩)

/-- A state with so many open levels in front of a text for which the rounds suffice. -/
structure Ready (rounds depth : Nat) (c : Counted) : Prop where
  depth : c.depth = depth
  rounds : c.state.rest.length < rounds
  finish : c.state.finish.kind = .finish

/-- A reader with a counter for a plain one, with so many open levels in front of it. -/
def Mirrors (rounds depth : Nat) (counted : CountedReader) (plain : Parser) : Prop :=
  ∀ c, Ready rounds depth c → Agrees c (counted c) (plain c.state)

section Agreement

variable {α β : Type} {rounds depth n peak : Nat} {c : Counted} {s : ParseState}
  {trees : List Expr} {counted : Option (α × Counted)} {plain : α × ParseState}

theorem Agrees.found (c : Counted) (a : α) (s : ParseState) :
    Agrees c (some (a, { c with state := s })) (a, s) :=
  ⟨c.peak, Nat.le_refl _, Nat.le_max_left _ _, rfl⟩

/-- What follows on a reader goes on with the levels that were open in front of it. -/
theorem Agrees.bind {f : α × Counted → Option (β × Counted)} {result : β × ParseState}
    (h : Agrees c counted plain)
    (hf : ∀ peak, Agrees ⟨plain.2, c.depth, peak⟩ (f (plain.1, ⟨plain.2, c.depth, peak⟩)) result) :
    Agrees c (counted >>= f) result := by
  obtain ⟨peak, hle, hmax, rfl⟩ := h
  obtain ⟨peak', hle', hmax', hresult⟩ := hf peak
  refine ⟨peak', hle.trans hle', hmax'.trans (Nat.max_le.mpr ⟨hmax, Nat.le_max_right _ _⟩), ?_⟩
  exact hresult

/-- Where there is room for a level, it is closed again. -/
theorem Agrees.enclosed {f : α → β} (hroom : c.depth < maxNesting)
    (h : Agrees ⟨c.state, c.depth + 1, max c.peak (c.depth + 1)⟩ counted plain) :
    Agrees c (counted >>= fun read => some (f read.1, read.2.leave)) (f plain.1, plain.2) := by
  obtain ⟨peak, hle, hmax, rfl⟩ := h
  refine ⟨peak, (Nat.le_max_left _ _).trans hle, ?_, rfl⟩
  show peak ≤ max c.peak maxNesting
  have hmax : peak ≤ max (max c.peak (c.depth + 1)) maxNesting := hmax
  omega

theorem Ready.after (h : Ready rounds depth c) (hread : Found n c.state trees s) (peak : Nat) :
    Ready rounds depth ⟨s, c.depth, peak⟩ :=
  ⟨h.depth, hread.rest.trans_lt h.rounds, (congrArg _ hread.finish).trans h.finish⟩

/-- A token that is not the end stands in front of it. -/
theorem length_consume_lt (hfinish : s.finish.kind = .finish) (h : s.current ≠ .finish) :
    s.consume.rest.length < s.rest.length := by
  have hne : s.rest ≠ [] := by
    intro hnil
    rw [ParseState.current, ParseState.head, hnil] at h
    exact h hfinish
  show s.rest.tail.length < s.rest.length
  rw [List.length_tail]
  exact Nat.sub_lt (List.length_pos_iff.mpr hne) Nat.one_pos

end Agreement

/-! ## 3. Readers that agree -/

section Readers

variable {n rounds depth : Nat} {p : Parser} {q : CountedReader}
  {ops : TokenKind → Option Operator} {c : Counted}

/-- The rounds that are left suffice for the operators that are left. -/
theorem agrees_chainFrom (hops : ops .finish = none) (hp : BoundedReader n p)
    (hq : Mirrors rounds depth q p) (left : Expr) {k fuel : Nat} (hc : Ready rounds depth c)
    (hk : c.state.rest.length < k) (hfuel : c.state.rest.length ≤ fuel) :
    Agrees c (countedChainFrom ops q k left c) (extendChain ops p fuel left c.state) := by
  induction k generalizing fuel left c with
  | zero => exact absurd hk (Nat.not_lt_zero _)
  | succ k ih =>
    cases hop : ops c.state.current with
    | none =>
      have hstop : extendChain ops p fuel left c.state = (some left, c.state) := by
        cases fuel with
        | zero => rfl
        | succ fuel => rw [extendChain, hop]
      rw [countedChainFrom, hop, hstop]
      exact .found c _ _
    | some op =>
      have hne : c.state.current ≠ .finish := by
        intro hend
        rw [hend, hops] at hop
        cases hop
      have hlt := length_consume_lt hc.finish hne
      obtain ⟨fuel, rfl⟩ := Nat.exists_eq_succ_of_ne_zero (Nat.ne_zero_of_lt (hlt.trans_le hfuel))
      rw [countedChainFrom, extendChain, hop]
      dsimp only
      split
      · exact .found c _ _
      rename_i hroom
      have hpass := Found.passOperator n (Nat.not_le.mp hroom)
      have hright := hp c.state.passOperator
      have hread : Agrees c (q (c.on passOperator)) (p c.state.passOperator) :=
        hq (c.on passOperator) (hc.after hpass _)
      generalize p c.state.passOperator = read at hright hread ⊢
      obtain ⟨e, s⟩ := read
      refine hread.bind fun peak => ?_
      cases e with
      | none => exact .found ⟨s, c.depth, peak⟩ _ _
      | some right =>
        have hshorter : s.rest.length ≤ c.state.consume.rest.length := hright.rest
        exact ih (.binary op left right) (hc.after (hpass.next hright.forget) peak)
          (by show s.rest.length < k; omega) (by show s.rest.length ≤ fuel; omega)

theorem mirrors_chain (hops : ops .finish = none) (hp : BoundedReader n p)
    (hq : Mirrors rounds depth q p) :
    Mirrors rounds depth (countedChain rounds ops q) (chain ops p) := by
  intro c hc
  have hleft := hp c.state
  have hread := hq c hc
  rw [chain]
  generalize p c.state = read at hleft hread ⊢
  obtain ⟨e, s⟩ := read
  refine hread.bind fun peak => ?_
  cases e with
  | none => exact .found ⟨s, c.depth, peak⟩ _ _
  | some left =>
    have hready : Ready rounds depth ⟨s, c.depth, peak⟩ := hc.after hleft peak
    exact agrees_chainFrom hops hp hq left hready hready.rounds (Nat.le_refl _)

theorem mirrors_range (hq : Mirrors rounds depth q p) :
    Mirrors rounds depth (countedRange q) (ranged p) := by
  intro c hc
  refine (hq c hc).bind fun peak => ?_
  exact .found ⟨(p c.state).2, c.depth, peak⟩ _ _

theorem mirrors_level (hp : BoundedReader n p) (hq : Mirrors rounds depth q p) (level : Level) :
    Mirrors rounds depth (countedLevel rounds q level) (levelParser p level) := by
  have hrange := mirrors_range hq
  have hproduct : Mirrors rounds depth (countedLevel rounds q .product) _ :=
    mirrors_chain rfl (bounded_levelParser hp .range) hrange
  have hsum : Mirrors rounds depth (countedLevel rounds q .sum) _ :=
    mirrors_chain rfl (bounded_levelParser hp .product) hproduct
  have hjoin : Mirrors rounds depth (countedLevel rounds q .join) _ :=
    mirrors_chain rfl (bounded_levelParser hp .sum) hsum
  cases level with
  | comparison => exact mirrors_chain rfl (bounded_levelParser hp .join) hjoin
  | join => exact hjoin
  | sum => exact hsum
  | product => exact hproduct
  | range => exact hrange
  | operand => exact hq
  | openCall => exact hq

/-- Further arguments are read from less of the text. -/
theorem agrees_afterArgument {more : List Expr → Counted → Option (List Expr × Counted)}
    {fuel : Nat} (args : List Expr) (hc : Ready rounds depth c)
    (hmore : ∀ c', Ready rounds depth c' → c'.state.rest.length < c.state.rest.length →
      Agrees c' (more args c') (arguments p fuel args c'.state)) :
    Agrees c (countedAfterArgument more args c) (afterArgument p fuel args c.state) := by
  have hcomma : ∀ s, Found 0 c.state [] s → s.current = .comma →
      Agrees c (more args { c with state := s.consume }) (arguments p fuel args s.consume) := by
    intro s hs hcomma
    have hlt := length_consume_lt (hc.after hs c.peak).finish (by simp [hcomma])
    exact hmore { c with state := s.consume } (hc.after (hs.next (.consume 0 s)) _)
      (hlt.trans_le hs.rest)
  have hskip : Found 0 c.state [] (c.state.report .noSeparator).skipArgument :=
    (Found.report 0 _ _).next (.skipArgument 0 _)
  unfold countedAfterArgument afterArgument
  dsimp only [Counted.on]
  generalize (c.state.report .noSeparator).skipArgument = s at hskip ⊢
  -- the end of an argument, where something else stands behind it
  have hlost : Agrees c
      (match s.current with
        | .comma => more args { c with state := s.consume }
        | .closeParen => some (args, { c with state := s.consume })
        | _ => some (args, { c with state := s }))
      (match s.current with
        | .comma => arguments p fuel args s.consume
        | .closeParen => (args, s.consume)
        | _ => (args, s)) := by
    cases hcurrent : s.current
    case comma => exact hcomma s hskip hcurrent
    all_goals exact .found c _ _
  cases hcurrent : c.state.current
  case comma => exact hcomma c.state (.refl 0 c.state) hcurrent
  case closeParen | finish => exact .found c _ _
  all_goals exact hlost

/-- The rounds that are left suffice for the arguments that are left. -/
theorem agrees_arguments (hp : BoundedReader n p) (hq : Mirrors rounds depth q p) (args : List Expr)
    {k fuel : Nat} (hc : Ready rounds depth c) (hk : c.state.rest.length < k)
    (hfuel : c.state.rest.length < fuel) :
    Agrees c (countedArguments q k args c) (arguments p fuel args c.state) := by
  induction k generalizing fuel args c with
  | zero => exact absurd hk (Nat.not_lt_zero _)
  | succ k ih =>
    obtain ⟨fuel, rfl⟩ := Nat.exists_eq_succ_of_ne_zero (Nat.ne_zero_of_lt hfuel)
    have hnext := hp c.state
    have hread := hq c hc
    rw [countedArguments, arguments_succ]
    generalize p c.state = read at hnext hread ⊢
    obtain ⟨e, s⟩ := read
    refine hread.bind fun peak => ?_
    have hafter : ∀ args c', Ready rounds depth c' →
        c'.state.rest.length ≤ c.state.rest.length →
        Agrees c' (countedAfterArgument (countedArguments q k) args c')
          (afterArgument p fuel args c'.state) := by
      intro args c' hc' hle
      exact agrees_afterArgument args hc' fun c'' hc'' hlt =>
        ih args hc'' (by omega) (by omega)
    cases e with
    | none =>
      have hskip := hnext.next (.skipArgument n s)
      exact hafter args ⟨s.skipArgument, c.depth, peak⟩ (hc.after hskip peak) hskip.rest
    | some e => exact hafter (args ++ [e]) ⟨s, c.depth, peak⟩ (hc.after hnext peak) hnext.rest

theorem agrees_call (hp : BoundedReader n p) (hq : Mirrors rounds depth q p) (name : String)
    (hc : Ready rounds depth c) :
    Agrees c (countedCall rounds q name c) (functionCall p name c.state) := by
  have hopen : Found n c.state [] c.state.consume.consume :=
    (Found.consume n _).next (.consume n _)
  unfold countedCall functionCall
  dsimp only [Counted.on]
  generalize c.state.consume.consume = s at hopen ⊢
  have hready : Ready rounds depth { c with state := s } := hc.after hopen c.peak
  have harguments : Agrees c (countedArguments q rounds [] { c with state := s })
      (arguments p (s.rest.length + 1) [] s) :=
    agrees_arguments hp hq [] hready hready.rounds (Nat.lt_succ_self _)
  generalize arguments p (s.rest.length + 1) [] s = read at harguments ⊢
  cases s.current
  case closeParen => exact .found c _ _
  all_goals exact harguments.bind fun peak => .found ⟨read.2, c.depth, peak⟩ _ _

theorem agrees_group (hq : Mirrors rounds depth q p) (hc : Ready rounds depth c) :
    Agrees c (countedGroup q c) (group p c.state) := by
  have hbody : Agrees c (q (c.on consume)) (p c.state.consume) :=
    hq (c.on consume) (hc.after (.consume 0 _) _)
  unfold countedGroup group
  refine hbody.bind fun peak => ?_
  dsimp only
  cases (p c.state.consume).2.current
  all_goals exact .found ⟨_, c.depth, peak⟩ _ _

theorem enter_full {c : Counted} (h : maxNesting ≤ c.depth) :
    c.enter = (false, c.on (·.abandon .tooDeep)) := if_pos h

theorem enter_room {c : Counted} (h : c.depth < maxNesting) :
    c.enter = (true, ⟨c.state, c.depth + 1, max c.peak (c.depth + 1)⟩) := if_neg (Nat.not_le.mpr h)

/-- Groups and calls are read one level deeper, where there is one. -/
theorem mirrors_primary {inner : Option Parser} (hfull : inner = none → maxNesting ≤ depth)
    (hroom : ∀ p ∈ inner, depth < maxNesting ∧ BoundedReader n p ∧ Mirrors rounds (depth + 1) q p) :
    Mirrors rounds depth (countedPrimary rounds q) (operandWith inner) := by
  intro c hc
  have hdeeper : ∀ peak, Ready rounds (depth + 1) ⟨c.state, c.depth + 1, peak⟩ := fun _ =>
    ⟨congrArg _ hc.depth, hc.rounds, hc.finish⟩
  unfold countedPrimary operandWith
  cases hcurrent : c.state.current
  case openParen =>
    cases inner with
    | none =>
      dsimp only
      rw [enter_full (hc.depth ▸ hfull rfl)]
      exact .found c _ _
    | some p =>
      obtain ⟨hlt, -, hp⟩ := hroom p rfl
      rw [← hc.depth] at hlt
      dsimp only
      rw [enter_room hlt]
      exact (agrees_group hp (hdeeper _)).enclosed (f := id) hlt
  case name name =>
    dsimp only
    split
    · cases inner with
      | none =>
        dsimp only
        rw [enter_full (hc.depth ▸ hfull rfl)]
        exact .found c _ _
      | some p =>
        obtain ⟨hlt, hbounded, hp⟩ := hroom p rfl
        rw [← hc.depth] at hlt
        dsimp only
        rw [enter_room hlt]
        exact (agrees_call hbounded hp name (hdeeper _)).enclosed (f := some) hlt
    · exact .found c _ _
  all_goals exact .found c _ _

/-- **Every way through a reader closes the levels that it has opened**, and finds what the plain
    reader finds. -/
theorem mirrors_operand {k : Nat} (hdepth : depth + k = maxNesting) {calls : Nat}
    (hcalls : k < calls) :
    Mirrors rounds depth (countedOperand rounds calls) (operand k) := by
  induction k generalizing depth calls with
  | zero =>
    obtain ⟨calls, rfl⟩ := Nat.exists_eq_succ_of_ne_zero (Nat.ne_zero_of_lt hcalls)
    exact mirrors_primary (n := 0) (fun _ => Nat.le_of_eq hdepth.symm) fun p hp => nomatch hp
  | succ k ih =>
    obtain ⟨calls, rfl⟩ := Nat.exists_eq_succ_of_ne_zero (Nat.ne_zero_of_lt hcalls)
    have hinner := ih (by omega : depth + 1 + k = maxNesting) (Nat.lt_of_succ_lt_succ hcalls)
    refine mirrors_primary (n := k) (fun h => nomatch h) ?_
    rintro p ⟨⟩
    exact ⟨by omega, bounded_levelParser (bounded_operand k) .comparison,
      mirrors_level (bounded_operand k) hinner .comparison⟩

end Readers

/-! ## 4. Formulas -/

section Formulas

variable {formula : String} {root : Expr}

theorem root_bounded (h : root ∈ (parseFormula formula).root) :
    root.operatorCount ≤ maxOperators ∧ root.callDepth ≤ maxNesting := by
  unfold parseFormula at h
  dsimp only at h
  split at h
  · have hread : Found maxNesting (ofChars formula.toList).consume _ _ :=
      bounded_levelParser (bounded_operand maxNesting) .comparison _
    have hmem : root ∈ (expression (operand maxNesting) _).1.toList := Option.mem_toList.mpr h
    refine ⟨?_, hread.calls root hmem⟩
    calc root.operatorCount
        ≤ Expr.operatorCountOfArgs _ := Expr.operatorCount_le_of_mem hmem
      _ ≤ (expression (operand maxNesting) (ofChars formula.toList).consume).2.operators :=
          hread.count
      _ ≤ maxOperators := hread.limit (Nat.zero_le _)
  · cases h

/-- A formula is read to an end, and all levels are closed there. -/
theorem countedFormula_eq (formula : String) {rounds : Nat}
    (hrounds : (scan formula.toList).1.length + maxNesting < rounds) :
    ∃ peak ≤ maxNesting, countedFormula rounds formula = some (parseFormula formula, 0, peak) := by
  let s := ofChars formula.toList
  have hlength : s.consume.rest.length ≤ (scan formula.toList).1.length :=
    (Found.consume 0 s).rest
  have hstart : Ready rounds 0 ⟨s.consume, 0, 0⟩ :=
    ⟨rfl, by show s.consume.rest.length < rounds; omega, (quiet_ofChars formula.toList).finish⟩
  have hoperand : Mirrors rounds 0 (countedOperand rounds rounds) (operand maxNesting) :=
    mirrors_operand (Nat.zero_add _) (by omega)
  obtain ⟨peak, -, hpeak, hread⟩ :=
    mirrors_level (bounded_operand maxNesting) hoperand .comparison _ hstart
  unfold countedFormula parseFormula
  dsimp only
  cases hcurrent : (ofChars formula.toList).current
  case equals =>
    refine ⟨peak, hpeak, ?_⟩
    dsimp only
    rw [hread]
    rfl
  all_goals exact ⟨0, Nat.zero_le _, rfl⟩

end Formulas

/-- **All formulas are read to an end, as small trees, with few open levels.**
    The tree has at most `maxOperators` operators and at most `maxNesting` calls on a path from its
    root, so that it is at most as high as both together, and one more. With a counter of the open
    groups and calls the loops come to the same end in few rounds; no level is open at the end, and
    at most `maxNesting` were at once. So it is with every reader from every state: behind it as
    many levels are open as in front of it. -/
theorem parseFormula_bounded :
    (∀ formula, ∀ root ∈ (parseFormula formula).root,
      root.operatorCount ≤ maxOperators ∧ root.height ≤ maxOperators + maxNesting + 1 ∧
      ∀ path, Expr.IsPath (root :: path) →
        (root :: path).countP Expr.isCall ≤ maxNesting ∧ (root :: path).length ≤ root.height) ∧
    (∀ formula rounds, (scan formula.toList).1.length + maxNesting < rounds →
      ∃ peak ≤ maxNesting, countedFormula rounds formula = some (parseFormula formula, 0, peak)) ∧
    ∀ (level : Level) (c : Counted) (rounds : Nat), c.depth ≤ maxNesting →
      c.state.finish.kind = .finish → c.state.rest.length + maxNesting < rounds →
      ∃ peak, c.peak ≤ peak ∧ peak ≤ max c.peak maxNesting ∧
        countedLevel rounds (countedOperand rounds rounds) level c =
          some ((levelParser (operand (maxNesting - c.depth)) level c.state).1,
            ⟨(levelParser (operand (maxNesting - c.depth)) level c.state).2, c.depth, peak⟩) := by
  refine ⟨fun formula root hroot => ?_, fun formula rounds => countedFormula_eq formula, ?_⟩
  · obtain ⟨hcount, hcalls⟩ := root_bounded hroot
    have hheight := root.height_le
    refine ⟨hcount, by omega, fun path hpath => ⟨?_, Expr.length_le_height hpath⟩⟩
    exact (Expr.countP_isCall_le hpath).trans hcalls
  · intro level c rounds hdepth hfinish hrounds
    have hoperand : Mirrors rounds c.depth (countedOperand rounds rounds)
        (operand (maxNesting - c.depth)) := mirrors_operand (by omega) (by omega)
    exact mirrors_level (bounded_operand _) hoperand level c ⟨rfl, by omega, hfinish⟩

/-- A call and a group that are not closed, and a group that is one level too deep. -/
theorem parseFormula_bounded_unclosed :
    (∃ root ∈ (parseFormula "=SUM(A1&(B1,C1").root, root.operatorCount ≤ 1024 ∧
      root.height ≤ 1089) ∧
    (∃ peak ≤ 64, countedFormula 80 "=SUM(A1&(B1,C1" =
      some (parseFormula "=SUM(A1&(B1,C1", 0, peak)) ∧
    ∃ e s, countedLevel 80 (countedOperand 80 80) .comparison ⟨ofChars "(A1)".toList, 64, 64⟩ =
      some (e, ⟨s, 64, 64⟩) := by
  have hroot : (parseFormula "=SUM(A1&(B1,C1").root = some (.call "SUM"
      [.binary .concat (.cell none ⟨0, 0, false, false⟩) (.cell none ⟨0, 1, false, false⟩),
        .cell none ⟨0, 2, false, false⟩]) := by
    with_unfolding_all rfl
  obtain ⟨hcount, hheight, -⟩ := parseFormula_bounded.1 _ _ hroot
  obtain ⟨peak, hle, hmax, hread⟩ := parseFormula_bounded.2.2 .comparison
    ⟨ofChars "(A1)".toList, 64, 64⟩ 80 (by decide) (by decide +kernel) (by decide +kernel)
  have hpeak : peak = 64 := Nat.le_antisymm hmax hle
  rw [hpeak] at hread
  have hclosed := parseFormula_bounded.2.1 "=SUM(A1&(B1,C1" 80 (by decide +kernel)
  exact ⟨⟨_, hroot, hcount, hheight⟩, hclosed, _, _, hread⟩

end Gridcalc
