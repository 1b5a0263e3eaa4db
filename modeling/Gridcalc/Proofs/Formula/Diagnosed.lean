import Gridcalc.Proofs.Formula.Moves
import Gridcalc.Proofs.Formula.Spans

/-!
# Where diagnostics stand

The reader remembers only where it has reported last. That suffices, since no move leads back.

* `ParseState.Marked`: the tokens with a diagnostic are among those that have been passed, each
  once and in order, and perhaps the one in front;
* `ParseState.Spent`: behind the text nothing more can be reported;
* `ParseState.Ended`: the fault that has ended the reading is the last one;
* `parseFormula_diagnostics_ordered`: **diagnostics stand in the order of the text, at most one for
  each token, and none behind the place where the reader has given up**.
-/

namespace Gridcalc

open ParseState Relation

/-! ## 1. Places of diagnostics -/

/-- What a diagnostic says of its token. -/
def Diagnostic.mark (d : Diagnostic) : TokenKind × Nat := (d.token, d.offset)

/-- What a diagnostic would say of the token. -/
def Token.mark (t : Token) : TokenKind × Nat := (t.kind, t.start)

namespace ParseState

/-- The tokens are those in front of the state and those that are left. Diagnostics stand at tokens
    in front, and at the next one only where it has been reported last. -/
structure MarkedBehind (front tokens : List Token) (s : ParseState) : Prop where
  tokens_eq : tokens = front ++ (s.rest ++ [s.finish])
  marks : (s.diagnostics.map Diagnostic.mark).Sublist ((front ++ [s.head]).map Token.mark)
  fresh : s.reported ≠ some s.rest.length →
    (s.diagnostics.map Diagnostic.mark).Sublist (front.map Token.mark)

/-- Diagnostics stand at the tokens, each once and in order. -/
def Marked (tokens : List Token) (s : ParseState) : Prop :=
  ∃ front, s.MarkedBehind front tokens

section Marked

variable {leaves : ParseState → ParseFault → Prop} {front tokens skipped ts : List Token}
  {s s' : ParseState} {t : Token}

/-- Going on past some tokens. -/
theorem MarkedBehind.past (h : s.MarkedBehind front tokens)
    (hrest : s.rest = t :: skipped ++ s'.rest) (hfinish : s'.finish = s.finish)
    (hdiagnostics : s'.diagnostics = s.diagnostics) :
    s'.MarkedBehind (front ++ t :: skipped) tokens := by
  have hhead : s.head = t := by simp [head, hrest]
  have hpassed : (front ++ [t]).Sublist (front ++ t :: skipped) :=
    List.Sublist.append_left (List.sublist_append_left [t] skipped) front
  have hmarks : (s'.diagnostics.map Diagnostic.mark).Sublist
      ((front ++ t :: skipped).map Token.mark) := by
    have hmarks := h.marks
    rw [hhead, ← hdiagnostics] at hmarks
    exact hmarks.trans (hpassed.map _)
  refine ⟨?_, hmarks.trans ((List.sublist_append_left _ _).map _), fun _ => hmarks⟩
  rw [h.tokens_eq, hrest, hfinish]
  simp

/-- Going on without a diagnostic. Where nothing has been passed, a report is remembered. -/
theorem Marked.forward (h : s.Marked tokens) (hrest : s'.rest <:+ s.rest)
    (hfinish : s'.finish = s.finish) (hdiagnostics : s'.diagnostics = s.diagnostics)
    (hreported : s'.reported = s.reported ∨ s'.reported = some s'.rest.length) :
    s'.Marked tokens := by
  obtain ⟨front, h⟩ := h
  obtain ⟨skipped, hskipped⟩ := hrest
  cases skipped with
  | cons t skipped => exact ⟨_, h.past hskipped.symm hfinish hdiagnostics⟩
  | nil =>
    have hrest : s'.rest = s.rest := hskipped
    have hhead : s'.head = s.head := by rw [head, head, hrest, hfinish]
    refine ⟨front, ?_, ?_, fun hfresh => ?_⟩
    · rw [hrest, hfinish, h.tokens_eq]
    · rw [hdiagnostics, hhead]
      exact h.marks
    · rw [hdiagnostics]
      rcases hreported with hsame | hhere
      · exact h.fresh (by rwa [← hsame, ← hrest])
      · exact absurd hhere hfresh

theorem Marked.report (h : s.Marked tokens) (fault : ParseFault) :
    (s.report fault).Marked tokens := by
  by_cases hreported : s.reported = some s.rest.length
  · rwa [ParseState.report, if_pos hreported]
  · obtain ⟨front, h⟩ := h
    rw [ParseState.report, if_neg hreported]
    refine ⟨front, ⟨h.tokens_eq, ?_, fun hfresh => absurd rfl hfresh⟩⟩
    -- the token in front joins those that have been passed
    show ((s.diagnostics ++ [Diagnostic.mk s.current s.head.start fault]).map
      Diagnostic.mark).Sublist ((front ++ [s.head]).map Token.mark)
    rw [List.map_append, List.map_append]
    exact (h.fresh hreported).append (.refl _)

theorem skipTokens_suffix (depth : Nat) (ts : List Token) : skipTokens depth ts <:+ ts := by
  fun_induction skipTokens depth ts with
  | case1 | case2 | case3 => exact List.suffix_rfl
  | case4 _ _ _ _ ih | case5 _ _ _ _ ih | case6 _ _ _ _ _ _ _ ih =>
    exact ih.trans (List.suffix_cons _ _)

/-- **No move leads back to a token with a diagnostic.** -/
theorem Marked.move (h : s.Marked tokens) (hmove : Move leaves s s') : s'.Marked tokens := by
  cases hmove with
  | consume => exact h.forward (List.tail_suffix _) rfl rfl (.inl rfl)
  | report => exact h.report _
  | abandon => exact (h.report _).forward List.nil_suffix rfl rfl (.inr rfl)
  | skipArgument => exact h.forward (skipTokens_suffix 0 _) rfl rfl (.inl rfl)
  | passOperator => exact h.forward (List.tail_suffix _) rfl rfl (.inl rfl)

theorem Marked.moved (h : s.Marked tokens) (hmoved : Moved leaves s s') : s'.Marked tokens := by
  induction hmoved with
  | refl => exact h
  | tail _ hmove ih => exact ih.move hmove

theorem marked_ofChars (cs : List Char) :
    (ofChars cs).Marked ((scan cs).1 ++ [(scan cs).2]) :=
  ⟨[], rfl, List.nil_sublist _, fun _ => .refl _⟩

theorem Marked.sublist (h : s.Marked tokens) :
    (s.diagnostics.map Diagnostic.mark).Sublist (tokens.map Token.mark) := by
  obtain ⟨front, h⟩ := h
  refine h.marks.trans (List.Sublist.map _ ?_)
  rw [h.tokens_eq, head]
  cases s.rest with
  | nil => exact .refl _
  | cons t ts => exact (List.Sublist.cons_cons t (List.nil_sublist _)).append_left front

end Marked

/-! ## 2. Behind the end -/

/-- No token is left, and the end has been reported or is not to be. -/
structure Spent (s : ParseState) : Prop where
  rest : s.rest = []
  reported : s.reported = some 0

/-- No fault has ended the reading, or the last one has, where the rest of the text has been left
    out. -/
def Ended (leaves : ParseState → ParseFault → Prop) (s : ParseState) : Prop :=
  (∀ d ∈ s.diagnostics, d.fault.endsReading = false) ∨
    s.Spent ∧ ∃ front d, s.diagnostics = front ++ [d] ∧
      (∀ d' ∈ front, d'.fault.endsReading = false) ∧ ∃ t, leaves t d.fault

section Ends

variable {leaves : ParseState → ParseFault → Prop} {s s' : ParseState} {fault : ParseFault}
  {d : Diagnostic} {front back : List Diagnostic}

theorem spent_abandon (s : ParseState) (fault : ParseFault) : (s.abandon fault).Spent := ⟨rfl, rfl⟩

theorem Spent.report (h : s.Spent) (fault : ParseFault) : s.report fault = s := by
  rw [ParseState.report, if_pos]
  rw [h.rest, h.reported]
  rfl

/-- **Behind the end nothing more is reported.** -/
theorem Spent.move (h : s.Spent) (hmove : Move leaves s s') :
    s'.Spent ∧ s'.diagnostics = s.diagnostics := by
  have htail : s.rest.tail = [] := by rw [h.rest, List.tail_nil]
  cases hmove with
  | consume => exact ⟨⟨htail, h.reported⟩, rfl⟩
  | report =>
    rw [h.report]
    exact ⟨h, rfl⟩
  | abandon =>
    refine ⟨spent_abandon s _, ?_⟩
    rw [ParseState.abandon, h.report]
  | skipArgument =>
    refine ⟨⟨?_, h.reported⟩, rfl⟩
    rw [ParseState.skipArgument, h.rest, skipTokens]
  | passOperator => exact ⟨⟨htail, h.reported⟩, rfl⟩

theorem Spent.moved (h : s.Spent) (hmoved : Moved leaves s s') :
    s'.Spent ∧ s'.diagnostics = s.diagnostics := by
  induction hmoved with
  | refl => exact ⟨h, rfl⟩
  | tail _ hmove ih =>
    obtain ⟨hspent, hdiagnostics⟩ := ih
    obtain ⟨hspent', hdiagnostics'⟩ := hspent.move hmove
    exact ⟨hspent', hdiagnostics'.trans hdiagnostics⟩

theorem diagnostics_report (s : ParseState) (fault : ParseFault) :
    (s.report fault).diagnostics = s.diagnostics ∨
      (s.report fault).diagnostics = s.diagnostics ++ [⟨s.current, s.head.start, fault⟩] := by
  unfold ParseState.report
  split
  · exact .inl rfl
  · exact .inr rfl

theorem Ended.move (h : s.Ended leaves) (hmove : Move leaves s s') : s'.Ended leaves := by
  rcases h with hopen | ⟨hspent, front, d, hlast, hfront, hleaves⟩
  · cases hmove with
    | consume => exact .inl hopen
    | @report fault hfault =>
      left
      rcases diagnostics_report s fault with heq | heq
      · rwa [heq]
      · rw [heq]
        exact List.forall_mem_append.mpr ⟨hopen, List.forall_mem_singleton.mpr hfault⟩
    | @abandon fault hleaves =>
      rcases diagnostics_report s fault with heq | heq
      · exact .inl fun d hd => hopen d (heq ▸ hd)
      · exact .inr ⟨spent_abandon s fault, s.diagnostics, _, heq, hopen, s, hleaves⟩
    | skipArgument => exact .inl hopen
    | passOperator => exact .inl hopen
  · obtain ⟨hspent', hsame⟩ := hspent.move hmove
    exact .inr ⟨hspent', front, d, hsame.trans hlast, hfront, hleaves⟩

theorem Ended.moved (h : s.Ended leaves) (hmoved : Moved leaves s s') : s'.Ended leaves := by
  induction hmoved with
  | refl => exact h
  | tail _ hmove ih => exact ih.move hmove

/-- A fault that ends the reading is the last one. -/
theorem Ended.last (h : s.Ended leaves) (hd : s.diagnostics = front ++ d :: back)
    (hends : d.fault.endsReading = true) : back = [] ∧ ∃ t, leaves t d.fault := by
  rcases h with hopen | ⟨-, front', last, hlast, hfront, hleaves⟩
  · rw [hopen d (by simp [hd])] at hends
    cases hends
  · rw [hd] at hlast
    rcases List.eq_nil_or_concat back with rfl | ⟨back, last', rfl⟩
    · obtain ⟨-, hsame⟩ := List.append_inj' hlast rfl
      cases hsame
      exact ⟨rfl, hleaves⟩
    · rw [List.concat_eq_append, ← List.cons_append, ← List.append_assoc] at hlast
      obtain ⟨rfl, -⟩ := List.append_inj' hlast rfl
      rw [hfront d (by simp)] at hends
      cases hends

end Ends

end ParseState

/-! ## 3. Diagnostics of a formula -/

section Formulas

variable {formula : String} {a : Activation} {fault : ParseFault}

/-- The state in which the reading of a formula ends. -/
def finalState (formula : String) : ParseState :=
  let s := (Activation.ofFormula formula).after
  if s.rest.isEmpty then s else s.report .trailing

theorem diagnostics_parseFormula (h : (ofChars formula.toList).current = .equals) :
    (parseFormula formula).diagnostics = (finalState formula).diagnostics := by
  simp only [parseFormula, h]
  rfl

theorem moved_finalState (leaves : ParseState → ParseFault → Prop) (formula : String) :
    Moved leaves (Activation.ofFormula formula).after (finalState formula) := by
  unfold finalState
  dsimp only
  split
  · exact .refl
  · exact .single (.report rfl)

/-- From start to end the reading of a formula makes moves. -/
theorem moved_parseFormula (formula : String) :
    Moved (Activation.ofFormula formula).Leaves (ofChars formula.toList) (finalState formula) :=
  (ReflTransGen.head (.consume _) (moved_after (.ofFormula formula))).trans
    (moved_finalState _ formula)

/-- A routine that gives up leaves the diagnostics as they are in the end. -/
theorem diagnostics_of_givesUp (hreach : ReflTransGen Activates (.ofFormula formula) a)
    (hgives : a.GivesUp fault) :
    (finalState formula).diagnostics = (a.state.abandon fault).diagnostics := by
  have hspent := spent_abandon a.state fault
  have hmoved := (moved_of_reaches hreach).trans (moved_finalState _ formula)
  rw [hgives.after_eq] at hmoved
  exact (hspent.moved hmoved).2

theorem head_tokenize (formula : String) :
    (tokenize formula).head?.map Token.kind = some (ofChars formula.toList).current := by
  rw [tokenize, current, head, ofChars]
  obtain ⟨tokens, finish⟩ := scan formula.toList
  cases tokens <;> rfl

/-- The tokens of a text begin one behind another. -/
theorem starts_tokenize (formula : String) :
    (tokenize formula).Pairwise fun t t' => t.start < t'.start :=
  (tokenize_tiles formula).1.ordered.imp fun h => h.1.trans_le h.2

/-- **Diagnostics stand in the order of the text, at most one for each token.** A text that does
    not begin with an equals sign has one diagnostic and no tree. In all others the diagnostics
    tell of tokens of the text. Where the reader gives up they are complete, and a fault for which
    it does is the last one. -/
theorem parseFormula_diagnostics_ordered (formula : String) :
    (parseFormula formula).diagnostics.Pairwise (fun d d' => d.offset < d'.offset) ∧
      (parseFormula formula).diagnostics.length ≤ (tokenize formula).length ∧
      (∀ kind, (tokenize formula).head?.map Token.kind = some kind → kind ≠ .equals →
        parseFormula formula = ⟨none, [⟨kind, 0, .noEqualsSign⟩]⟩) ∧
      ((tokenize formula).head?.map Token.kind = some .equals →
        ((parseFormula formula).diagnostics.map Diagnostic.mark).Sublist
            ((tokenize formula).map Token.mark) ∧
          (∀ a fault, ReflTransGen Activates (.ofFormula formula) a → a.GivesUp fault →
            (parseFormula formula).diagnostics = (a.state.abandon fault).diagnostics) ∧
          ∀ front d back, (parseFormula formula).diagnostics = front ++ d :: back →
            d.fault.endsReading = true →
            back = [] ∧
              ∃ a, ReflTransGen Activates (.ofFormula formula) a ∧ a.GivesUp d.fault) := by
  rw [head_tokenize]
  by_cases hequals : (ofChars formula.toList).current = .equals
  · have hmoved := moved_parseFormula formula
    have hmarks : ((parseFormula formula).diagnostics.map Diagnostic.mark).Sublist
        ((tokenize formula).map Token.mark) := by
      rw [diagnostics_parseFormula hequals]
      exact ((marked_ofChars formula.toList).moved hmoved).sublist
    refine ⟨?_, ?_, fun kind hkind hne => ?_, fun _ => ⟨hmarks, fun a fault hreach hgives => ?_,
      fun front d back hd hends => ?_⟩⟩
    · have hstarts := List.pairwise_map.mpr (starts_tokenize formula)
      have hoffsets := hmarks.map Prod.snd
      rw [List.map_map, List.map_map] at hoffsets
      exact List.pairwise_map.mp (hstarts.sublist hoffsets)
    · simpa using hmarks.length_le
    · exact absurd ((Option.some.inj hkind).symm.trans hequals) hne
    · rw [diagnostics_parseFormula hequals]
      exact diagnostics_of_givesUp hreach hgives
    · rw [diagnostics_parseFormula hequals] at hd
      have hended : (finalState formula).Ended (Activation.ofFormula formula).Leaves :=
        Ended.moved (.inl fun d hd => absurd hd List.not_mem_nil) hmoved
      obtain ⟨hback, t, a, hreach, -, hgives⟩ := hended.last hd hends
      exact ⟨hback, a, hreach, hgives⟩
  · have hparse : parseFormula formula =
        ⟨none, [⟨(ofChars formula.toList).current, 0, .noEqualsSign⟩]⟩ := by
      unfold parseFormula
      dsimp only
      split
      · contradiction
      · rfl
    rw [hparse]
    refine ⟨List.pairwise_singleton _ _, ?_, fun kind hkind _ => ?_, fun hkind => ?_⟩
    · simp [tokenize]
    · cases hkind
      rfl
    · exact absurd (Option.some.inj hkind) hequals

/-- A sign is no operand, yet it is an operator; it is reported once. -/
example : (parseFormula "=\"a\"*-)").diagnostics =
    [⟨.minus, 5, .unarySign⟩, ⟨.closeParen, 6, .noOperand⟩] := by
  decide +kernel

end Formulas

end Gridcalc
