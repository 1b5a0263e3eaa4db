import Mathlib
import Gridcalc.Proofs.Formula.CaretScan

/-!
# Hints for calls

The hint at a caret next to the calls of the grammar around it. The scan goes through the
characters and knows nothing of tokens, but in a formula that can be read it keeps in step with
what the tokens leave open. It differs in what it hears of a call: nothing if blanks stand in front
of the parenthesis, and of a name only the part behind the last dollar sign.

* `tokensAround`, `InText`, `CallAround`: the tokens on the two sides of a caret, carets in texts,
  and the calls around a caret;
* `heard?`: what the scan hears of a call, `PlainlyWritten.heard`: all of it if it is written
  without blanks and dollar signs;
* `Follows`, `Follows.step`, `follows_scan`: **the scan keeps in step with the tokens**;
* `callHint?_exact`: **the hint is the innermost call around the caret that is heard**.
-/

namespace Gridcalc

open CaretState OpenParens

/-! ## 1. Carets -/

/-- The tokens that end in front of a caret, which stands behind so many characters, and the
    others. -/
def splitAtCaret : Nat → List Token → List Token × List Token
  | _, [] => ([], [])
  | caret, t :: ts =>
    if t.chars.length ≤ caret then
      let (before, after) := splitAtCaret (caret - t.chars.length) ts
      (t :: before, after)
    else ([], t :: ts)

/-- The tokens of a formula on the two sides of a caret. -/
def tokensAround (formula : String) (caret : Nat) : List Token × List Token :=
  splitAtCaret caret (scan formula.toList).1

/-- The caret stands in a text, behind the quote that opens it. -/
def InText (formula : String) (caret : Nat) : Prop :=
  ∃ t ∈ (tokensAround formula caret).2.head?, (∃ s, t.kind = .text s) ∧
    ((tokensAround formula caret).1.flatMap Token.chars ++ t.gap).length < caret

/-- The call stands around the caret. -/
def CallAround (formula : String) (caret : Nat) (call : OpenCall) : Prop :=
  IsCallAround ((tokensAround formula caret).1.map Token.kind)
    ((tokensAround formula caret).2.map Token.kind) call

theorem splitAtCaret_spec (caret : Nat) (ts : List Token) :
    (splitAtCaret caret ts).1 ++ (splitAtCaret caret ts).2 = ts ∧
      ((splitAtCaret caret ts).1.flatMap Token.chars).length ≤ caret ∧
      ∀ t ∈ (splitAtCaret caret ts).2.head?,
        caret < ((splitAtCaret caret ts).1.flatMap Token.chars ++ t.chars).length := by
  induction ts generalizing caret with
  | nil => exact ⟨rfl, Nat.zero_le _, nofun⟩
  | cons t ts ih =>
    unfold splitAtCaret
    split
    · rename_i hle
      obtain ⟨happend, hbefore, hafter⟩ := ih (caret - t.chars.length)
      refine ⟨by rw [List.cons_append, happend], ?_, fun t' ht' => ?_⟩
      · rw [List.flatMap_cons, List.length_append]
        omega
      · have hlt := hafter t' ht'
        rw [List.flatMap_cons, List.append_assoc, List.length_append]
        omega
    · rename_i hgt
      refine ⟨rfl, Nat.zero_le _, ?_⟩
      intro t' ht'
      cases ht'
      simpa using hgt

/-! ## 2. What is heard of a call -/

/-- The part of a name behind the last dollar sign. -/
def heardName (name : Token) : List Char := (name.source.reverse.takeWhile (· ≠ '$')).reverse

/-- What the scan hears of a call among some tokens. -/
def hear? (ts : List Token) (call : OpenCall) : Option CallHint := do
  let name ← ts[call.place]?
  let opening ← ts[call.place + 1]?
  if opening.gap = [] then
    (opened (heardName name)).map fun hint => { hint with argument := call.argument }
  else none

/-- What the scan hears of a call in a formula. -/
def heard? (formula : String) (call : OpenCall) : Option CallHint :=
  hear? (scan formula.toList).1 call

/-- The call has no dollar sign in its name, and the parenthesis stands directly behind it. -/
def PlainlyWritten (formula : String) (call : OpenCall) : Prop :=
  ∃ name opening, (scan formula.toList).1[call.place]? = some name ∧
    (scan formula.toList).1[call.place + 1]? = some opening ∧ '$' ∉ name.source ∧ opening.gap = []

/-! ## 3. The scan keeps in step -/

/-- The scan has gone through the tokens `before` of `ts`, and the characters `tail` are left. -/
structure Follows (ts before : List Token) (tail : List Char) (s : CaretState) : Prop where
  frames : s.frames =
    (OpenParens.after {} (before.map Token.kind)).opened.map (·.bind (hear? ts))
  inSheetName : s.inSheetName = false
  inText : s.inText = true → tail = []
  /-- Behind marks there is no word. -/
  mark : (∀ t ∈ before.getLast?, t.kind.isWord = false) → s.word = []
  /-- Behind a name stands what is heard of it. -/
  name : ∀ t ∈ before.getLast?, (∃ n, t.kind = .name n) → s.word.reverse = heardName t

section Steps

variable {ts before after : List Token} {t : Token} {tail tail' m : List Char} {s : CaretState}
  {frames : List (Option CallHint)} {word : List Char} {call : OpenCall}

theorem Follows.eq_outside (h : Follows ts before tail s) (htail : tail ≠ []) :
    s = outside s.frames s.word := by
  obtain ⟨frames, word, inText, inSheetName⟩ := s
  have htext : inText = false := Bool.eq_false_iff.mpr fun ht => htail (h.inText ht)
  have hsheet : inSheetName = false := h.inSheetName
  rw [htext, hsheet]
  rfl

/-- One more comma for the calls is one more for what is heard of them. -/
theorem nextArgument_map (ts : List Token) (calls : List (Option OpenCall)) :
    nextArgument (calls.map (·.bind (hear? ts))) = (passComma calls).map (·.bind (hear? ts)) := by
  match calls with
  | [] | none :: _ => rfl
  | some call :: calls =>
    have hnext : hear? ts { call with argument := call.argument + 1 } =
        (hear? ts call).map fun hint => { hint with argument := hint.argument + 1 } := by
      unfold hear?
      cases ts[call.place]? with
      | none => rfl
      | some name =>
        cases ts[call.place + 1]? with
        | none => rfl
        | some opening => by_cases hgap : opening.gap = [] <;> simp [hgap, Function.comp_def]
    cases hcall : hear? ts call <;> simp [passComma, nextArgument, hnext, hcall]

/-- In front of a word stands a mark. -/
theorem isWord_getLast? {ks ks' : List TokenKind} {k : TokenKind} (h : Joined (ks ++ k :: ks'))
    (hk : k.closes = false) (hopen : k ≠ .openParen) : ∀ k' ∈ ks.getLast?, k'.isWord = false := by
  intro k' hk'
  refine Bool.eq_false_iff.mpr fun hword => ?_
  rcases (List.isChain_append.mp h.chain).2.2 k' hk' k rfl hword with hcloses | ⟨-, heq⟩
  · rw [hk] at hcloses
    cases hcloses
  · exact hopen heq

/-- A word in front of a parenthesis is a name. -/
theorem name_getLast? {ks ks' : List TokenKind} (h : Joined (ks ++ .openParen :: ks')) :
    ∀ k ∈ ks.getLast?, k.isWord = true → ∃ n, k = .name n := by
  intro k hk hword
  rcases (List.isChain_append.mp h.chain).2.2 k hk _ rfl hword with hcloses | ⟨hname, -⟩
  · cases hcloses
  · exact hname

/-- What is heard where a parenthesis opens. -/
theorem Follows.heard_open (h : Follows ts before tail s) (hts : ts = before ++ t :: after)
    (ht : t.kind = .openParen) (hjoin : Joined (ts.map Token.kind)) :
    CaretState.opened (if t.gap = [] then s.word else []).reverse :: s.frames =
      ((OpenParens.after {} (before.map Token.kind)).step .openParen).opened.map
        (·.bind (hear? ts)) := by
  have hnone (hword : s.word = []) :
      CaretState.opened (if t.gap = [] then s.word else []).reverse = none := by
    rw [hword, ite_self]
    rfl
  rw [h.frames]
  rcases List.eq_nil_or_concat before with rfl | ⟨front, last, rfl⟩
  · rw [hnone (h.mark nofun)]
    rfl
  rw [List.concat_eq_append] at hts h ⊢
  have hlast : last ∈ (front ++ [last]).getLast? := List.getLast?_concat
  rw [hts, List.map_append, List.map_cons, ht] at hjoin
  have hkind := name_getLast? hjoin last.kind (by simp)
  rw [List.map_append, List.map_singleton, after_append, after_cons, after_nil]
  by_cases hword : last.kind.isWord = true
  · obtain ⟨n, hn⟩ := hkind hword
    have hcall : hear? ts ⟨front.length, 0⟩ =
        CaretState.opened (if t.gap = [] then s.word else []).reverse := by
      have hname : ts[front.length]? = some last := by simp [hts]
      have hopening : ts[front.length + 1]? = some t := by simp [hts]
      unfold hear?
      rw [hname, hopening]
      by_cases hgap : t.gap = []
      · simp only [hgap, h.name last hlast ⟨n, hn⟩, if_true, Option.bind_eq_bind, Option.bind_some]
        unfold CaretState.opened
        split <;> rfl
      · simp only [hgap, if_false, Option.bind_eq_bind, Option.bind_some]
        rfl
    have hplace : (OpenParens.after {} (front.map Token.kind)).place = front.length := by simp
    rw [hn, opened_call, hplace, List.map_cons, Option.bind_some, hcall, opened_step rfl]
  · have hnamed : ∀ n, last.kind ≠ .name n := fun n hn => hword (hn ▸ rfl)
    have hmark : ∀ k ∈ (front ++ [last]).getLast?, k.kind.isWord = false := by
      intro k hk
      rw [List.getLast?_concat] at hk
      cases hk
      exact Bool.eq_false_iff.mpr hword
    rw [hnone (h.mark hmark), opened_group (named_step hnamed)]
    rfl

/-- The state behind one more token. -/
theorem Follows.of_frames (hframes : frames =
      ((OpenParens.after {} (before.map Token.kind)).step t.kind).opened.map (·.bind (hear? ts)))
    {inside : Bool} (hinside : inside = true → tail = [])
    (hmark : t.kind.isWord = false → word = [])
    (hname : (∃ n, t.kind = .name n) → word.reverse = heardName t) :
    Follows ts (before ++ [t]) tail ⟨frames, word, inside, false⟩ where
  frames := by
    rw [List.map_append, List.map_singleton, after_append, after_cons, after_nil, hframes]
  inSheetName := rfl
  inText := hinside
  mark h := hmark (h t List.getLast?_concat)
  name t' ht' h := by
    rw [List.getLast?_concat] at ht'
    cases ht'
    exact hname h

theorem Follows.of_outside (hframes : frames =
      ((OpenParens.after {} (before.map Token.kind)).step t.kind).opened.map (·.bind (hear? ts)))
    (hmark : t.kind.isWord = false → word = [])
    (hname : (∃ n, t.kind = .name n) → word.reverse = heardName t) :
    Follows ts (before ++ [t]) tail (outside frames word) :=
  .of_frames hframes (fun h => absurd h Bool.false_ne_true) hmark hname

/-- No word stands in front of a name. -/
theorem Follows.word_eq_nil {n : String} (h : Follows ts before tail s)
    (hts : ts = before ++ t :: after) (hjoin : Joined (ts.map Token.kind))
    (hn : t.kind = .name n) : s.word = [] := by
  refine h.mark fun t' ht' => ?_
  rw [hts, List.map_append, List.map_cons] at hjoin
  refine isWord_getLast? hjoin (by rw [hn]; rfl) (by simp [hn]) t'.kind ?_
  rw [List.getLast?_map]
  exact Option.mem_map_of_mem _ ht'

/-- Behind a word the scan is in step again. -/
theorem Follows.step_word (h : Follows ts before tail s) (hts : ts = before ++ t :: after)
    (hjoin : Joined (ts.map Token.kind)) (hsource : ReadsAs t.kind t.source tail')
    (hword : t.kind.isWord = true) (hstart : s.word = [] → word = []) :
    Follows ts (before ++ [t]) tail'
      (t.source.foldl CaretState.step (outside s.frames word)) := by
  have hinner : t.kind.isInner = true := TokenKind.isInner_of_isWord hword
  have hframes : s.frames = ((OpenParens.after {} (before.map Token.kind)).step
      t.kind).opened.map (·.bind (hear? ts)) := by
    rw [opened_step hinner, h.frames]
  have hmark {word' : List Char} (hmark : t.kind.isWord = false) : word' = [] := by
    rw [hword] at hmark
    cases hmark
  by_cases hname : ∃ n, t.kind = .name n
  · obtain ⟨n, hn⟩ := hname
    rw [hn] at hsource
    rw [hstart (h.word_eq_nil hts hjoin hn), foldl_name hsource.name_source.2.2 List.not_mem_nil,
      List.append_nil]
    exact .of_outside hframes hmark fun _ => rfl
  · by_cases htext : ∃ txt, t.kind = .text txt
    · obtain ⟨txt, htxt⟩ := htext
      rw [htxt] at hsource
      obtain ⟨cs, hcs, hquoted⟩ := hsource.text_source
      obtain ⟨inside, hscan, hinside⟩ := foldl_text hquoted s.frames word
      rw [hcs, hscan]
      exact .of_frames hframes hinside (fun _ => rfl) fun hn => absurd hn hname
    · obtain ⟨word', hscan⟩ := (hsource.passes hinner (.inl hword)
        fun txt htxt => htext ⟨txt, htxt⟩).whole s.frames word
      rw [hscan]
      exact .of_outside hframes hmark fun hn => absurd hn hname

/-- Behind a mark the scan is in step again, and parentheses and commas mean the same to it. -/
theorem Follows.step_mark (h : Follows ts before tail s) (hts : ts = before ++ t :: after)
    (hjoin : Joined (ts.map Token.kind)) (hsource : t.source = m) (hm : t.kind.mark? = some m) :
    Follows ts (before ++ [t]) tail' (t.source.foldl CaretState.step
      (outside s.frames (if t.gap = [] then s.word else []))) := by
  have hname : ¬∃ n, t.kind = .name n := by
    intro hname
    obtain ⟨n, hn⟩ := hname
    rw [hn] at hm
    cases hm
  rw [hsource]
  cases hinner : t.kind.isInner with
  | true =>
    rw [foldl_mark hm hinner]
    refine .of_outside ?_ (fun _ => rfl) fun hn => absurd hn hname
    rw [opened_step hinner, h.frames]
  | false =>
    rcases TokenKind.cases_of_not_isInner hinner with hk | hk | hk
    all_goals
      rw [hk] at hm
      cases hm
      refine .of_outside ?_ (fun _ => rfl) fun hn => absurd hn hname
      rw [hk]
    · exact h.heard_open hts hk hjoin
    · rw [opened_step_close, List.map_tail, ← h.frames]
      rfl
    · rw [opened_step_comma, ← nextArgument_map, ← h.frames]
      rfl

/-- **A token further the scan is in step again.** -/
theorem Follows.step (h : Follows ts before (t.chars ++ tail) s) (hts : ts = before ++ t :: after)
    (hgap : AllBlank t.gap) (hsource : ReadsAs t.kind t.source tail)
    (hjoin : Joined (ts.map Token.kind)) :
    Follows ts (before ++ [t]) tail (t.chars.foldl CaretState.step s) := by
  have hne : t.chars ++ tail ≠ [] := List.append_ne_nil_of_left_ne_nil hsource.chars_ne_nil _
  have hstart : t.chars.foldl CaretState.step s =
      t.source.foldl CaretState.step (outside s.frames (if t.gap = [] then s.word else [])) := by
    rw [Token.chars, List.foldl_append]
    conv_lhs => rw [h.eq_outside hne, foldl_blank hgap]
  rw [hstart]
  rcases hjoin.known t.kind (by simp [hts]) with hword | ⟨m, hm⟩
  · exact h.step_word hts hjoin hsource hword fun hnil => by rw [hnil, ite_self]
  · exact h.step_mark hts hjoin (hsource.source_eq hm) hm

/-- **The scan keeps in step with the tokens.** -/
theorem follows_scan {fin : List Char} (before after : List Token)
    (hspelled : Spelled fin (before ++ after))
    (hjoin : Joined ((before ++ after).map Token.kind)) :
    Follows (before ++ after) before (after.flatMap Token.chars ++ fin)
      ((before.flatMap Token.chars).foldl CaretState.step {}) := by
  induction before using List.reverseRecOn generalizing after with
  | nil => exact ⟨rfl, rfl, nofun, fun _ => rfl, nofun⟩
  | append_singleton before t ih =>
    have hassoc : before ++ [t] ++ after = before ++ t :: after := by simp
    rw [hassoc] at hspelled hjoin ⊢
    have hdrop := hspelled.drop before.length
    rw [List.drop_left] at hdrop
    cases hdrop with
    | cons hgap hsource _ =>
      have hbefore := ih (t :: after) hspelled hjoin
      rw [List.flatMap_cons, List.append_assoc] at hbefore
      have hstep := hbefore.step rfl hgap hsource hjoin
      rwa [List.flatMap_append, List.flatMap_singleton, List.foldl_append]

/-- In the middle of a token that is no text the same is open as in front of it. -/
theorem Follows.take (h : Follows ts before (t.chars ++ tail) s) (hgap : AllBlank t.gap)
    (hsource : ReadsAs t.kind t.source tail)
    (hknown : t.kind.isWord = true ∨ ∃ m, t.kind.mark? = some m) {n : Nat}
    (hn : n < t.chars.length) (htext : (∃ x, t.kind = .text x) → n ≤ t.gap.length) :
    ((t.chars.take n).foldl CaretState.step s).frames = s.frames ∧
      ((t.chars.take n).foldl CaretState.step s).inText = false := by
  have hne : t.chars ++ tail ≠ [] := List.append_ne_nil_of_left_ne_nil hsource.chars_ne_nil _
  have hblank : AllBlank (t.gap.take n) := fun c hc => hgap c (List.mem_of_mem_take hc)
  have hcut : (t.chars.take n).foldl CaretState.step s =
      (t.source.take (n - t.gap.length)).foldl CaretState.step
        (outside s.frames (if t.gap.take n = [] then s.word else [])) := by
    rw [Token.chars, List.take_append, List.foldl_append]
    conv_lhs => rw [h.eq_outside hne, foldl_blank hblank]
  rw [hcut]
  rcases Nat.lt_or_ge t.gap.length n with hlt | hle
  · have hnotext : ∀ x, t.kind ≠ .text x := fun x hx => by
      have := htext ⟨x, hx⟩
      omega
    cases hinner : t.kind.isInner with
    | true => exact (hsource.passes hinner hknown hnotext).part _ _ _
    | false =>
      -- a parenthesis or comma has no middle
      have hone : t.source.length = 1 := by
        rcases TokenKind.cases_of_not_isInner hinner with hk | hk | hk <;>
        · rw [hk] at hsource
          rw [hsource.source_eq rfl]
          rfl
      rw [Token.chars, List.length_append, hone] at hn
      omega
  · rw [Nat.sub_eq_zero_of_le hle, List.take_zero]
    exact ⟨rfl, rfl⟩

/-- Behind all tokens the same is open, whatever blanks are left. -/
theorem Follows.finish {fin : List Char} (h : Follows ts before fin s) (hfin : AllBlank fin)
    (n : Nat) : ((fin.take n).foldl CaretState.step s).frames = s.frames := by
  by_cases hne : fin = []
  · rw [hne, List.take_nil]
    rfl
  · have hblank : AllBlank (fin.take n) := fun c hc => hfin c (List.mem_of_mem_take hc)
    conv_lhs => rw [h.eq_outside hne, foldl_blank hblank]
    rfl

end Steps

/-! ## 4. The hint -/

section Hints

variable {formula : String} {e : Expr} {caret : Nat} {call : OpenCall}

theorem findSome?_map_bind {α β : Type} (f : α → Option β) (l : List (Option α)) :
    (l.map (·.bind f)).findSome? id = l.reduceOption.findSome? f := by
  induction l with
  | nil => rfl
  | cons a l ih =>
    cases a with
    | none => exact ih
    | some a =>
      have hreduce : (some a :: l).reduceOption = a :: l.reduceOption := rfl
      rw [hreduce, List.map_cons, List.findSome?_cons, List.findSome?_cons, ih]
      rfl

/-- What is open at a caret: what the tokens in front of it leave open. -/
theorem scan_at_caret (hjoin : Joined (kindsOf formula.toList)) (hcaret : ¬InText formula caret) :
    ((formula.toList.take caret).foldl CaretState.step {}).frames =
        (OpenParens.after {} ((tokensAround formula caret).1.map Token.kind)).opened.map
          (·.bind (heard? formula)) ∧
      (((formula.toList.take caret).foldl CaretState.step {}).inText = true →
        (tokensAround formula caret).2 = []) := by
  obtain ⟨happend, hbefore, hafter⟩ := splitAtCaret_spec caret (scan formula.toList).1
  have hspelled := spelled_scan formula.toList
  have hchars := chars_scan formula.toList
  have hheard : heard? formula = hear? (scan formula.toList).1 := rfl
  rw [hheard]
  rw [InText, tokensAround] at hcaret
  rw [tokensAround]
  rw [kindsOf] at hjoin
  generalize (splitAtCaret caret (scan formula.toList).1).1 = before at *
  generalize (splitAtCaret caret (scan formula.toList).1).2 = after at *
  rw [← happend] at hspelled hchars hjoin ⊢
  rw [List.flatMap_append, List.append_assoc] at hchars
  have hfollows := follows_scan before after hspelled hjoin
  rw [← hfollows.frames, ← hchars, List.take_append, List.take_of_length_le hbefore,
    List.foldl_append]
  have hdrop := hspelled.drop before.length
  rw [List.drop_left] at hdrop
  cases hdrop with
  | nil hfin => exact ⟨hfollows.finish hfin _, fun _ => rfl⟩
  | @cons t after hgap hsource hrest =>
    rw [List.flatMap_cons, List.append_assoc] at hfollows ⊢
    have hn : caret - (before.flatMap Token.chars).length < t.chars.length := by
      have hlt := hafter t rfl
      rw [List.length_append] at hlt
      omega
    rw [List.take_append_of_le_length hn.le]
    obtain ⟨hframes, htext⟩ := hfollows.take hgap hsource (hjoin.known _ (by simp)) hn fun hx => by
      by_contra hgt
      refine hcaret ⟨t, rfl, hx, ?_⟩
      rw [List.length_append]
      omega
    exact ⟨hframes, fun h => absurd (h.symm.trans htext) (by decide)⟩

theorem mem_calls_iff {s : OpenParens} : call ∈ s.calls ↔ some call ∈ s.opened := by
  rw [calls, List.reduceOption_mem_iff]

/-- The calls that the tokens in front of a caret leave open are those around it. -/
theorem mem_calls_iff_callAround (hread : parseFormula formula = ⟨some e, []⟩) :
    call ∈ (OpenParens.after {} ((tokensAround formula caret).1.map Token.kind)).calls ↔
      CallAround formula caret call := by
  obtain ⟨ks, hkinds, hderives, -⟩ := parseFormula_eq_iff.mp hread
  rw [mem_calls_iff, CallAround]
  refine mem_opened_iff (Language.expression_iff_derives.mpr hderives) ?_
  rw [← List.map_append, ← hkinds, tokensAround, (splitAtCaret_spec _ _).1, kindsOf]

/-- **The hint is what is heard of the first open call of which something is heard.** -/
theorem callHint?_eq (hread : parseFormula formula = ⟨some e, []⟩)
    (hcaret : ¬InText formula caret) :
    callHint? formula caret =
      (OpenParens.after {} ((tokensAround formula caret).1.map Token.kind)).calls.findSome?
        (heard? formula) := by
  obtain ⟨hframes, htext⟩ := scan_at_caret (joined_kindsOf hread) hcaret
  have hhint : callHint? formula caret =
      if ((formula.toList.take caret).foldl CaretState.step {}).inText then none
      else ((formula.toList.take caret).foldl CaretState.step {}).frames.findSome? id := rfl
  rw [hhint]
  split
  · -- nothing is open behind the last token
    rename_i hinside
    refine (List.findSome?_eq_none_iff.mpr fun call hcall => ?_).symm
    obtain ⟨_, _, _, rest, back, -, -, hafter, -⟩ := (mem_calls_iff_callAround hread).mp hcall
    rw [htext hinside] at hafter
    exact absurd (congrArg List.length hafter) (by simp)
  · rw [hframes, findSome?_map_bind, calls]

/-- Where the places decrease, the first element with a result is that of the greatest place. -/
theorem findSome?_eq_some_iff_place {β : Type} {l : List OpenCall}
    (h : (l.map OpenCall.place).Pairwise (· > ·)) {f : OpenCall → Option β} {b : β} :
    l.findSome? f = some b ↔ ∃ call ∈ l, f call = some b ∧
      ∀ inner ∈ l, call.place < inner.place → f inner = none := by
  rw [List.pairwise_map] at h
  constructor
  · intro hfind
    obtain ⟨front, call, back, rfl, hcall, hfront⟩ := List.findSome?_eq_some_iff.mp hfind
    obtain ⟨-, hback, -⟩ := List.pairwise_append.mp h
    refine ⟨call, by simp, hcall, fun inner hinner hlt => ?_⟩
    rcases List.mem_append.mp hinner with hinner | hinner
    · exact hfront inner hinner
    · rcases List.mem_cons.mp hinner with rfl | hinner
      · exact absurd hlt (Nat.lt_irrefl _)
      · exact absurd hlt (Nat.lt_asymm ((List.pairwise_cons.mp hback).1 inner hinner))
  · intro ⟨call, hmem, hcall, hinner⟩
    obtain ⟨front, back, rfl⟩ := List.append_of_mem hmem
    obtain ⟨-, -, hfront⟩ := List.pairwise_append.mp h
    refine List.findSome?_eq_some_iff.mpr ⟨front, call, back, rfl, hcall, fun inner hmem => ?_⟩
    exact hinner inner (List.mem_append_left _ hmem) (hfront inner hmem call (by simp))

/-- The tokens of a call around a caret. -/
theorem CallAround.tokens (h : CallAround formula caret call) :
    ∃ n name opening, (scan formula.toList).1[call.place]? = some name ∧
      (scan formula.toList).1[call.place + 1]? = some opening ∧ name.kind = .name n := by
  obtain ⟨front, n, inside, rest, back, hplace, hbefore, -, -⟩ := h
  have htokens := (splitAtCaret_spec caret (scan formula.toList).1).1
  rw [← tokensAround] at htokens
  obtain ⟨front', more, hcut, hfront, hmore⟩ := List.map_eq_append_iff.mp hbefore
  obtain ⟨name, more, rfl, hname, hmore⟩ := List.map_eq_cons_iff.mp hmore
  obtain ⟨opening, more, rfl, -, -⟩ := List.map_eq_cons_iff.mp hmore
  have hlen : front'.length = call.place := by rw [← hplace, ← hfront, List.length_map]
  rw [hcut] at htokens
  refine ⟨n, name, opening, ?_, ?_, hname⟩ <;>
  · rw [← htokens, ← hlen]
    simp

end Hints

/-! ## 5. Calls that are heard in full -/

section Plain

variable {c : Char} {cs tail : List Char} {t : Token}

theorem mapBy_gt {bound : Nat} {runs : List (Nat × Nat × Nat × Nat)}
    (h : ∀ run ∈ runs, bound < run.2.2.2) {n : Nat} (hn : bound < n) :
    bound < Text.mapBy runs n := by
  induction runs with
  | nil => exact hn
  | cons run runs ih =>
    obtain ⟨hrun, hrest⟩ := List.forall_mem_cons.mp h
    unfold Text.mapBy
    split
    · exact Nat.lt_of_lt_of_le hrun (Nat.le_add_right _ _)
    · exact ih hrest

theorem ofNat_ne_dollar {n : Nat} (h : '$'.toNat < n) : Char.ofNat n ≠ '$' := by
  intro heq
  have hcode := congrArg Char.toNat heq
  rw [Char.toNat_ofNat] at hcode
  split at hcode
  · exact absurd hcode (Nat.ne_of_gt h)
  · exact absurd hcode (by decide)

/-- A dollar sign is the capital of nothing else. -/
theorem eq_dollar_of_mem_capital (h : '$' ∈ Text.capital c) : c = '$' := by
  unfold Text.capital at h
  split at h
  · rename_i hascii
    have hall : ∀ n < 128, '$' = (Char.ofNat n).toUpper → Char.ofNat n = '$' := by decide
    exact forall_ascii (P := fun c => '$' = c.toUpper → c = '$') hall hascii
      (List.mem_singleton.mp h)
  · rename_i hascii
    split at h
    · rename_i ns hns
      have htable : ∀ entry ∈ Text.longCapitals, ∀ n ∈ entry.2, '$'.toNat < n := by decide +kernel
      obtain ⟨front, back, hmem, -⟩ := List.lookup_eq_some_iff.mp hns
      obtain ⟨n, hn, heq⟩ := List.mem_map.mp h
      exact absurd heq (ofNat_ne_dollar (htable (c.toNat, ns) (by rw [hmem]; simp) n hn))
    · have hruns : ∀ run ∈ Text.upperRuns, '$'.toNat < run.2.2.2 := by decide +kernel
      refine absurd (List.mem_singleton.mp h).symm (ofNat_ne_dollar (mapBy_gt hruns ?_))
      have hcode : '$'.toNat = 36 := rfl
      omega

theorem heardName_of_not_mem (h : '$' ∉ t.source) : heardName t = t.source := by
  have hall : t.source.reverse.takeWhile (· ≠ '$') = t.source.reverse := by
    refine List.takeWhile_eq_self_iff.mpr fun c hc => ?_
    rw [decide_eq_true_eq]
    intro heq
    subst heq
    exact h (List.mem_reverse.mp hc)
  rw [heardName, hall, List.reverse_reverse]

theorem not_mem_heardName (t : Token) : '$' ∉ heardName t := by
  intro h
  exact absurd (List.mem_takeWhile_imp (List.mem_reverse.mp h)) (by decide)

/-- A name is heard in full exactly if no dollar sign is in it. -/
theorem opened_heardName_iff {n : String} (h : ReadsAs (.name n) t.source tail) :
    CaretState.opened (heardName t) = some ⟨capitals n, 0⟩ ↔ '$' ∉ t.source := by
  obtain ⟨rfl, hstarts, -⟩ := h.name_source
  have hcapitals : capitals (String.ofList t.source) = String.ofList (Text.uppercase t.source) := by
    rw [capitals, String.toList_ofList]
  rw [hcapitals]
  constructor
  · intro hopened hdollar
    unfold CaretState.opened at hopened
    split at hopened
    · have hname := congrArg String.toList (CallHint.mk.inj (Option.some.inj hopened)).1
      rw [String.toList_ofList, String.toList_ofList] at hname
      have hmem : '$' ∈ Text.uppercase (heardName t) :=
        hname ▸ List.mem_flatMap.mpr ⟨'$', hdollar, by decide⟩
      obtain ⟨c, hc, hcapital⟩ := List.mem_flatMap.mp hmem
      exact not_mem_heardName t (eq_dollar_of_mem_capital hcapital ▸ hc)
    · cases hopened
  · intro hdollar
    rw [heardName_of_not_mem hdollar]
    obtain ⟨c, cs, hcs⟩ := List.exists_cons_of_ne_nil h.ne_nil
    rw [hcs] at hstarts hdollar ⊢
    have hfunction : isFunctionName (c :: cs) = true := by
      have hletter := hstarts c rfl
      have hc : c ≠ '$' := fun heq => hdollar (heq ▸ List.mem_cons_self)
      simpa [startsName, isFunctionName, hc] using hletter
    rw [CaretState.opened, if_pos hfunction]

end Plain

section Exact

variable {formula : String} {e : Expr} {caret : Nat} {call : OpenCall}

/-- A call is heard in full exactly if it is written plainly. -/
theorem CallAround.heard?_iff (h : CallAround formula caret call) :
    ∃ n, (kindsOf formula.toList)[call.place]? = some (.name n) ∧
      (heard? formula call = some ⟨capitals n, call.argument⟩ ↔ PlainlyWritten formula call) := by
  obtain ⟨n, name, opening, hname, hopening, hkind⟩ := h.tokens
  refine ⟨n, ?_, ?_⟩
  · rw [kindsOf, List.getElem?_map, hname, Option.map_some, hkind]
  · have hreads : ∃ tail, ReadsAs (.name n) name.source tail := by
      obtain ⟨hlt, hget⟩ := List.getElem?_eq_some_iff.mp hname
      have hdrop := (spelled_scan formula.toList).drop call.place
      rw [List.drop_eq_getElem_cons hlt, hget] at hdrop
      cases hdrop with
      | cons _ hsource _ => exact ⟨_, hkind ▸ hsource⟩
    obtain ⟨tail, hreads⟩ := hreads
    have hplain : PlainlyWritten formula call ↔ '$' ∉ name.source ∧ opening.gap = [] := by
      simp [PlainlyWritten, hname, hopening]
    rw [hplain, ← opened_heardName_iff hreads, heard?, hear?, hname, hopening]
    by_cases hgap : opening.gap = []
    · by_cases hfunction : isFunctionName (heardName name) = true <;>
        simp [CaretState.opened, hgap, hfunction]
    · simp [hgap]

/-- **The hint is the innermost call around the caret that is heard**, with its argument, and there
    is none exactly if no call around the caret is. A call is heard as the grammar has it exactly if
    its name is without dollar signs and the parenthesis stands directly behind it. -/
theorem callHint?_exact (hread : parseFormula formula = ⟨some e, []⟩)
    (hcaret : ¬InText formula caret) :
    (∀ hint, callHint? formula caret = some hint ↔
      ∃ call, CallAround formula caret call ∧ heard? formula call = some hint ∧
        ∀ inner, CallAround formula caret inner → call.place < inner.place →
          heard? formula inner = none) ∧
      (callHint? formula caret = none ↔
        ∀ call, CallAround formula caret call → heard? formula call = none) ∧
      ∀ call, CallAround formula caret call →
        ∃ n, (kindsOf formula.toList)[call.place]? = some (.name n) ∧
          (heard? formula call = some ⟨capitals n, call.argument⟩ ↔
            PlainlyWritten formula call) := by
  have hmem : ∀ call, call ∈ _ ↔ CallAround formula caret call :=
    fun _ => mem_calls_iff_callAround hread
  rw [callHint?_eq hread hcaret]
  refine ⟨fun hint => ?_, ?_, fun call h => h.heard?_iff⟩
  · rw [findSome?_eq_some_iff_place (ordered_after _).pairwise]
    simp only [hmem]
  · simp only [List.findSome?_eq_none_iff, hmem]

-- one call is not heard, of the other one only a part of the name
example : callHint? "=SUM (1,2)" 8 = none ∧ callHint? "=A$B(1)" 5 = some ⟨"B", 0⟩ := by
  decide +kernel

/-- With a blank in front of its parenthesis the inner call is not heard, and the hint is the outer
    one. -/
theorem callHint?_exact_blank :
    parseFormula "=IF(SUM (TRUE,FALSE),TRUE)" =
        ⟨some (.call "IF" [.call "SUM" [.boolean true, .boolean false], .boolean true]), []⟩ ∧
      ¬InText "=IF(SUM (TRUE,FALSE),TRUE)" 14 ∧
      callHint? "=IF(SUM (TRUE,FALSE),TRUE)" 14 = some ⟨"IF", 0⟩ ∧
      ∃ call, CallAround "=IF(SUM (TRUE,FALSE),TRUE)" 14 call ∧
        heard? "=IF(SUM (TRUE,FALSE),TRUE)" call = some ⟨"IF", 0⟩ ∧
        ∀ inner, CallAround "=IF(SUM (TRUE,FALSE),TRUE)" 14 inner → call.place < inner.place →
          heard? "=IF(SUM (TRUE,FALSE),TRUE)" inner = none := by
  have hread : parseFormula "=IF(SUM (TRUE,FALSE),TRUE)" =
      ⟨some (.call "IF" [.call "SUM" [.boolean true, .boolean false], .boolean true]), []⟩ := by
    with_unfolding_all rfl
  have hcaret : ¬InText "=IF(SUM (TRUE,FALSE),TRUE)" 14 := by
    have hnext : (tokensAround "=IF(SUM (TRUE,FALSE),TRUE)" 14).2.head?.map Token.kind =
        some (.name "FALSE") := by
      with_unfolding_all rfl
    rintro ⟨t, ht, ⟨s, hs⟩, -⟩
    rw [Option.mem_def.mp ht, Option.map_some, hs] at hnext
    cases hnext
  have hhint : callHint? "=IF(SUM (TRUE,FALSE),TRUE)" 14 = some ⟨"IF", 0⟩ := by decide +kernel
  exact ⟨hread, hcaret, hhint, ((callHint?_exact hread hcaret).1 _).mp hhint⟩

end Exact

end Gridcalc
