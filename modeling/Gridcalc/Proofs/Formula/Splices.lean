import Gridcalc.Proofs.Formula.Rewriting
import Gridcalc.Proofs.Formula.Spans

/-!
# Texts with spliced references

Replacing references copies everything else of a text.

* `placedReferences`, `referencesIn`: the references of a text with the bytes between which they
  stand;
* `splice`: a text copied with replacements put in;
* `mapReferences_eq_splice`: **replacing references splices the text at them**;
* `SplicesReferences`, `splicesReferences_rewritten`: copying a formula, following an edit of lines
  and following a renamed sheet do nothing else.
-/

namespace Gridcalc

/-! ## 1. Where references stand -/

/-- A reference with the bytes between which it stands. -/
structure Occurrence where
  site : Site
  start : Nat
  stop : Nat

/-- The references of some tokens, each from the start of its first token to the end of its last
    one. -/
def placedReferences : List Token → List Occurrence
  | [] => []
  | t :: ts =>
    match Site.read? t ts with
    | none => placedReferences ts
    | some (site, n) =>
      ⟨site, t.start, ((t :: ts.take n).getLast (List.cons_ne_nil _ _)).stop⟩ ::
        placedReferences (ts.drop n)
termination_by ts => ts.length
decreasing_by all_goals simp only [List.length_drop, List.length_cons]; omega

/-- The references of a formula text. -/
def referencesIn (formula : String) : List Occurrence := placedReferences (scan formula.toList).1

/-- An address stands between two bytes of a text, or two with a colon between them. -/
def ReferenceStands (formula : String) (start stop : Nat) : Prop :=
  (∃ t s a, [t] <:+: tokenize formula ∧ t.kind = .cell s a ∧ t.start = start ∧ t.stop = stop) ∨
    ∃ t colon t' s a s' a', [t, colon, t'] <:+: tokenize formula ∧ t.kind = .cell s a ∧
      colon.kind = .colon ∧ t'.kind = .cell s' a' ∧ t.start = start ∧ t'.stop = stop

section Occurrences

variable {offset n : Nat} {t : Token} {ts us : List Token} {o : Occurrence} {site : Site}

/-- Tokens that are laid behind others begin where these end. -/
theorem Laid.behind (h : Laid offset (us ++ ts)) :
    Laid (offset + byteLength (us.flatMap Token.chars)) ts := by
  induction us generalizing offset with
  | nil => exact h
  | cons u us ih =>
    cases h with
    | cons hstart hrest =>
      have hmore := ih hrest
      rwa [Token.stop_eq hstart, Nat.add_assoc, ← byteLength_append, ← List.flatMap_cons] at hmore

/-- Tokens that others are laid behind are laid themselves. -/
theorem Laid.left (h : Laid offset (us ++ ts)) : Laid offset us := by
  induction us generalizing offset with
  | nil => exact .nil offset
  | cons u us ih =>
    cases h with
    | cons hstart hrest => exact .cons hstart (ih hrest)

/-- The last of some tokens ends where they all end. -/
theorem Laid.stop_getLast (h : Laid offset (us ++ ts)) (hne : us ≠ []) :
    (us.getLast hne).stop = offset + byteLength (us.flatMap Token.chars) := by
  have hsplit := List.dropLast_concat_getLast hne
  rw [← hsplit, List.append_assoc, List.singleton_append] at h
  rw [Token.stop, h.start_eq, Nat.add_assoc, ← byteLength_append]
  conv_rhs => rw [← hsplit]
  simp [Token.chars]

/-- The tokens of a reference, and those behind it. -/
theorem take_append_drop_cons (t : Token) (ts : List Token) (n : Nat) :
    t :: ts = (t :: ts.take n) ++ ts.drop n := by
  rw [List.cons_append, List.take_append_drop]

theorem exists_start_of_mem (h : o ∈ placedReferences ts) : ∃ t ∈ ts, o.start = t.start := by
  fun_induction placedReferences ts with
  | case1 => cases h
  | case2 t ts hread ih =>
    obtain ⟨u, hu, hstart⟩ := ih h
    exact ⟨u, List.mem_cons_of_mem _ hu, hstart⟩
  | case3 t ts site n hread ih =>
    rcases List.mem_cons.mp h with rfl | h
    · exact ⟨t, List.mem_cons_self, rfl⟩
    · obtain ⟨u, hu, hstart⟩ := ih h
      exact ⟨u, List.mem_cons_of_mem _ (List.mem_of_mem_drop hu), hstart⟩

/-- References stand one behind another, and each of them takes some bytes. -/
theorem pairwise_placedReferences (h : Laid offset ts) (hsource : ∀ t ∈ ts, t.source ≠ []) :
    (placedReferences ts).Pairwise (fun o o' => o.stop ≤ o'.start) ∧
      ∀ o ∈ placedReferences ts, o.start < o.stop := by
  fun_induction placedReferences ts generalizing offset with
  | case1 => exact ⟨.nil, fun _ ho => nomatch ho⟩
  | case2 t ts hread ih =>
    cases h with
    | cons hstart hrest => exact ih hrest fun u hu => hsource u (List.mem_cons_of_mem _ hu)
  | case3 t ts site n hread ih =>
    have hne : t :: ts.take n ≠ [] := List.cons_ne_nil _ _
    rw [take_append_drop_cons t ts n] at h
    have hbehind := h.behind
    have hstop := h.stop_getLast hne
    rw [← hstop] at hbehind
    obtain ⟨hpairs, hlong⟩ := ih hbehind fun u hu =>
      hsource u (List.mem_cons_of_mem _ (List.mem_of_mem_drop hu))
    have hpos := byteLength_pos (hsource t List.mem_cons_self)
    have hstart : t.start = offset + byteLength t.gap := by
      cases h with
      | cons hstart _ => exact hstart
    refine ⟨.cons (fun o ho => ?_) hpairs, List.forall_mem_cons.mpr ⟨?_, hlong⟩⟩
    · obtain ⟨u, hu, hfirst⟩ := exists_start_of_mem ho
      rw [hfirst]
      exact hbehind.le_start hu
    · show t.start < ((t :: ts.take n).getLast hne).stop
      rw [hstop, hstart, List.flatMap_cons, Token.chars, byteLength_append, byteLength_append]
      omega

/-- A reference is read from tokens of its kinds, which stand side by side. -/
theorem exists_tokens_of_mem (h : o ∈ placedReferences ts) :
    ∃ us, ∃ hne : us ≠ [], us <:+: ts ∧ us.map Token.kind = o.site.kinds ∧
      (us.head hne).start = o.start ∧ (us.getLast hne).stop = o.stop := by
  fun_induction placedReferences ts with
  | case1 => cases h
  | case2 t ts hread ih =>
    obtain ⟨us, hne, hus, hkinds⟩ := ih h
    exact ⟨us, hne, hus.trans (List.suffix_cons t ts).isInfix, hkinds⟩
  | case3 t ts site n hread ih =>
    rcases List.mem_cons.mp h with rfl | h
    · refine ⟨t :: ts.take n, List.cons_ne_nil _ _, ?_, (Site.kinds_read? hread).symm, rfl, rfl⟩
      exact ⟨[], ts.drop n, (take_append_drop_cons t ts n).symm⟩
    · obtain ⟨us, hne, hus, hkinds⟩ := ih h
      have hsuffix := (List.drop_suffix n ts).trans (List.suffix_cons t ts)
      exact ⟨us, hne, hus.trans hsuffix.isInfix, hkinds⟩

theorem isInfix_tokenize {formula : String} (h : us <:+: (scan formula.toList).1) :
    us <:+: tokenize formula :=
  h.trans (List.prefix_append _ _).isInfix

/-- Every reference of a text stands in it. -/
theorem referenceStands_of_mem {formula : String} (h : o ∈ referencesIn formula) :
    ReferenceStands formula o.start o.stop := by
  obtain ⟨us, hne, hus, hkinds, hstart, hstop⟩ := exists_tokens_of_mem h
  have hus := isInfix_tokenize hus
  rw [Site.kinds] at hkinds
  cases hsecond : o.site.second with
  | none =>
    rw [hsecond] at hkinds
    obtain ⟨t, rest, rfl, hkind, hrest⟩ := List.map_eq_cons_iff.mp hkinds
    obtain rfl := List.map_eq_nil_iff.mp hrest
    exact .inl ⟨t, _, _, hus, hkind, hstart, hstop⟩
  | some corner =>
    rw [hsecond] at hkinds
    obtain ⟨t, rest, rfl, hkind, hrest⟩ := List.map_eq_cons_iff.mp hkinds
    obtain ⟨colon, rest, rfl, hcolon, hrest⟩ := List.map_eq_cons_iff.mp hrest
    obtain ⟨t', rest, rfl, hkind', hrest⟩ := List.map_eq_cons_iff.mp hrest
    obtain rfl := List.map_eq_nil_iff.mp hrest
    exact .inr ⟨t, colon, t', _, _, _, _, hus, hkind, hcolon, hkind', hstart, hstop⟩

end Occurrences

/-! ## 2. Spliced texts -/

/-- What stands in place of the characters between two bytes of a text. -/
structure Replacement where
  start : Nat
  stop : Nat
  text : List Char

/-- A text from a byte on, with replacements put in and everything between them copied. -/
def splice (text : String) (copied : Nat) : List Replacement → String
  | [] => String.Pos.Raw.extract text ⟨copied⟩ text.rawEndPos
  | r :: rs => String.Pos.Raw.extract text ⟨copied⟩ ⟨r.start⟩ ++ String.ofList r.text ++
      splice text r.stop rs

/-- The replacements that `edit` makes of some references. -/
def replacements (edit : Site → Option (List Char)) (os : List Occurrence) : List Replacement :=
  os.filterMap fun o => (edit o.site).map fun text => ⟨o.start, o.stop, text⟩

section Splicing

variable {edit : Site → Option (List Char)} {text formula : String} {fin : List Char}
  {ts : List Token}

/-- Tokens with their references replaced are spliced, behind some characters in front of them
    that are not copied yet. -/
theorem splice_replacements {front kept : List Char}
    (htext : text.toList = front ++ kept ++ ts.flatMap Token.chars ++ fin)
    (hlaid : Laid (byteLength (front ++ kept)) ts) :
    splice text (byteLength front) (replacements edit (placedReferences ts)) =
      String.ofList (kept ++ mapSites edit ts ++ fin) := by
  fun_induction mapSites edit ts generalizing front kept with
  | case1 =>
    have hrest : text.toList = front ++ (kept ++ fin) ++ [] := by simpa using htext
    have hend : text.rawEndPos = ⟨byteLength front + byteLength (kept ++ fin)⟩ := by
      rw [← byteLength_append, ← List.append_nil (front ++ (kept ++ fin)), ← hrest,
        ← utf8ByteSize_eq]
      rfl
    rw [placedReferences, replacements, List.filterMap_nil, splice, hend,
      extract_between hrest rfl rfl, List.append_nil]
  | case2 t ts hread ih =>
    have hbehind : Laid (byteLength (front ++ (kept ++ t.chars))) ts := by
      have hlaid : Laid (byteLength (front ++ kept)) ([t] ++ ts) := hlaid
      have hbehind := hlaid.behind
      rwa [List.flatMap_singleton, ← byteLength_append, List.append_assoc] at hbehind
    have hmore := ih (by simpa using htext) hbehind
    rw [placedReferences, hread]
    simpa using hmore
  | case3 t ts site n hread here =>
    rename_i ih
    have hne : t :: ts.take n ≠ [] := List.cons_ne_nil _ _
    have hcut : text.toList = front ++ kept ++ (t :: ts.take n).flatMap Token.chars ++
        (ts.drop n).flatMap Token.chars ++ fin := by
      rw [htext, take_append_drop_cons t ts n, List.flatMap_append]
      simp only [List.append_assoc]
    have hstart : t.start = byteLength (front ++ (kept ++ t.gap)) := by
      cases hlaid with
      | cons hstart _ => rw [hstart, ← byteLength_append, List.append_assoc]
    rw [take_append_drop_cons t ts n] at hlaid
    have hstop := hlaid.stop_getLast hne
    have hbehind := hlaid.behind
    rw [← byteLength_append] at hstop hbehind
    rw [placedReferences, hread]
    cases hcs : edit site with
    | none =>
      have hhere : here = (t :: ts.take n).flatMap Token.chars := by
        simp only [here, hcs, List.flatMap_cons]
      rw [← hhere, List.append_assoc front] at hcut hbehind
      have hrest := ih hcut hbehind
      simpa [replacements, hcs] using hrest
    | some cs =>
      have hhere : here = t.gap ++ cs := by simp only [here, hcs]
      rw [← List.append_nil (front ++ kept ++ _)] at hcut hbehind
      have hrest := ih hcut hbehind
      have hfront : text.toList = front ++ (kept ++ t.gap) ++ (t.source ++
          (ts.take n).flatMap Token.chars ++ (ts.drop n).flatMap Token.chars ++ fin) := by
        rw [hcut, List.flatMap_cons, Token.chars]
        simp only [List.append_assoc, List.nil_append]
      have hcopied := extract_between hfront rfl (hstart.trans (byteLength_append _ _))
      rw [← hstop] at hrest
      simp only [replacements, List.filterMap_cons, hcs, Option.map_some, splice] at hrest ⊢
      rw [hcopied, hrest, hhere, ← String.ofList_append, ← String.ofList_append]
      simp only [List.append_assoc, List.nil_append]

/-- **Replacing references splices the text** at those that are replaced. -/
theorem mapReferences_eq_splice (edit : Site → Option (List Char)) (formula : String) :
    mapReferences edit formula =
      splice formula 0 (replacements edit (referencesIn formula)) := by
  obtain ⟨hlaid, -⟩ := laid_scanFrom 0 formula.toList
  have htext : formula.toList = [] ++ [] ++ (scan formula.toList).1.flatMap Token.chars ++
      (scan formula.toList).2.chars := (chars_scan formula.toList).symm
  exact (splice_replacements htext hlaid.left).symm

end Splicing

/-! ## 3. Rewritten formulas -/

/-- Whether one of the corners of a reference names a sheet. -/
def Site.names (sheet : String) (site : Site) : Bool :=
  site.first.names sheet || (site.second.map (Corner.names sheet)).getD false

/-- The result is the text with just those references replaced that `which` picks: they stand apart,
    and everything outside of them is copied. -/
def SplicesReferences (which : Site → Bool) (formula result : String) : Prop :=
  ∃ rs : List Replacement, result = splice formula 0 rs ∧
    rs.Pairwise (fun r r' => r.stop ≤ r'.start) ∧
    (∀ r ∈ rs, r.start < r.stop ∧ ReferenceStands formula r.start r.stop) ∧
    rs.map (fun r => (r.start, r.stop)) =
      ((referencesIn formula).filter fun o => which o.site).map fun o => (o.start, o.stop)

section Rewriting

variable {which : Site → Bool} {edit : Site → Option (List Char)} {formula : String}

/-- An edit behind a test replaces what passes the test. -/
theorem isSome_guarded (which : Site → Bool) (text : Site → List Char) (site : Site) :
    (if which site then some (text site) else none).isSome = which site := by
  cases which site <;> rfl

/-- The replacements of an edit stand where the references that it picks stand. -/
theorem map_replacements (hedit : ∀ site, (edit site).isSome = which site)
    (os : List Occurrence) :
    (replacements edit os).map (fun r => (r.start, r.stop)) =
      (os.filter fun o => which o.site).map fun o => (o.start, o.stop) := by
  induction os with
  | nil => rfl
  | cons o os ih =>
    have ho := hedit o.site
    cases hcs : edit o.site with
    | none =>
      rw [hcs] at ho
      rw [List.filter_cons_of_neg (by rw [← ho]; exact Bool.false_ne_true), ← ih]
      simp [replacements, hcs]
    | some cs =>
      rw [hcs] at ho
      rw [List.filter_cons_of_pos (by rw [← ho]; rfl), List.map_cons, ← ih]
      simp [replacements, hcs]

theorem exists_occurrence_of_mem {r : Replacement} {os : List Occurrence}
    (h : r ∈ replacements edit os) : ∃ o ∈ os, o.start = r.start ∧ o.stop = r.stop := by
  obtain ⟨o, ho, hr⟩ := List.mem_filterMap.mp h
  obtain ⟨cs, -, rfl⟩ := Option.map_eq_some_iff.mp hr
  exact ⟨o, ho, rfl, rfl⟩

/-- **Replacing references splices a text at the references that are replaced.** -/
theorem splicesReferences_mapReferences (hedit : ∀ site, (edit site).isSome = which site)
    (formula : String) : SplicesReferences which formula (mapReferences edit formula) := by
  obtain ⟨hlaid, -⟩ := laid_scanFrom 0 formula.toList
  have hsource : ∀ t ∈ (scan formula.toList).1, t.source ≠ [] := fun t ht =>
    ((spelled_scan formula.toList).of_mem ht).2.1
  obtain ⟨hordered, hlong⟩ := pairwise_placedReferences hlaid.left hsource
  refine ⟨_, mapReferences_eq_splice edit formula, ?_, fun r hr => ?_, map_replacements hedit _⟩
  · refine hordered.filterMap _ fun o o' hle r hr r' hr' => ?_
    obtain ⟨cs, -, rfl⟩ := Option.map_eq_some_iff.mp hr
    obtain ⟨cs', -, rfl⟩ := Option.map_eq_some_iff.mp hr'
    exact hle
  · obtain ⟨o, ho, hstart, hstop⟩ := exists_occurrence_of_mem hr
    rw [← hstart, ← hstop]
    exact ⟨hlong o ho, referenceStands_of_mem ho⟩

/-- Where no reference is picked the text stays. -/
theorem SplicesReferences.eq_self {result : String} (h : SplicesReferences which formula result)
    (hnone : ∀ o ∈ referencesIn formula, which o.site = false) : result = formula := by
  obtain ⟨rs, rfl, -, -, hspans⟩ := h
  have hfilter : ((referencesIn formula).filter fun o => which o.site) = [] :=
    List.filter_eq_nil_iff.mpr fun o ho => by simp [hnone o ho]
  rw [hfilter, List.map_nil, List.map_eq_nil_iff] at hspans
  rw [hspans]
  exact String.extract_zero_rawEndPos formula

/-- A corner of a reference is one of the addresses of the text. -/
theorem exists_token_of_corner {o : Occurrence} {c : Corner} (ho : o ∈ referencesIn formula)
    (hc : c = o.site.first ∨ c ∈ o.site.second) :
    ∃ t ∈ tokenize formula, t.kind = .cell c.sheet c.address := by
  obtain ⟨us, -, hus, hkinds, -⟩ := exists_tokens_of_mem ho
  have hmem : TokenKind.cell c.sheet c.address ∈ us.map Token.kind := by
    rw [hkinds, Site.kinds]
    rcases hc with rfl | hc
    · exact List.mem_cons_self
    · rw [Option.mem_def.mp hc]
      simp
  obtain ⟨t, ht, hkind⟩ := List.mem_map.mp hmem
  exact ⟨t, (isInfix_tokenize hus).subset ht, hkind⟩

/-- A reference names a sheet only if an address of the text does. -/
theorem site_names_eq_false {sheet : String}
    (h : ∀ t ∈ tokenize formula, ∀ name a, t.kind = .cell (some name) a →
      Text.sameIgnoringCase name sheet = false) :
    ∀ o ∈ referencesIn formula, o.site.names sheet = false := by
  intro o ho
  have hcorner : ∀ c : Corner, c = o.site.first ∨ c ∈ o.site.second → c.names sheet = false := by
    intro c hc
    obtain ⟨t, ht, hkind⟩ := exists_token_of_corner ho hc
    unfold Corner.names
    cases hname : c.sheet with
    | none => rfl
    | some name =>
      rw [hname] at hkind
      exact h t ht name _ hkind
  rw [Site.names, hcorner _ (.inl rfl), Bool.false_or]
  cases hsecond : o.site.second with
  | none => rfl
  | some c => exact hcorner c (.inr hsecond)

/-- **Rewriting a formula touches references only**, whatever the text is. A formula that is copied
    to another place has all its references replaced; one that follows inserted or deleted lines has
    those on the edited sheet replaced, and one that follows a renamed sheet those that name it.
    Everything else is copied, and where there is no such reference the text stays as it is. -/
theorem splicesReferences_rewritten (formula : String) :
    (∀ rows cols : Int, SplicesReferences (fun _ => !(rows = 0 && cols = 0)) formula
      (shiftReferences rows cols formula)) ∧
    (∀ (edit : LineEdit) (target : String) (onTarget : Bool),
      SplicesReferences (LineEdit.concerns target onTarget) formula
        (followEdit edit target onTarget formula) ∧
      ((∀ o ∈ referencesIn formula, LineEdit.concerns target onTarget o.site = false) →
        followEdit edit target onTarget formula = formula)) ∧
    ∀ old new : String,
      SplicesReferences (Site.names old) formula (renameInFormula old new formula) ∧
      ((∀ t ∈ tokenize formula, ∀ name a, t.kind = .cell (some name) a →
          Text.sameIgnoringCase name old = false) →
        renameInFormula old new formula = formula) := by
  refine ⟨fun rows cols => ?_, fun edit target onTarget => ?_, fun old new => ?_⟩
  · unfold shiftReferences
    split
    · rename_i hzero
      have hnone : SplicesReferences (fun _ => !(rows = 0 && cols = 0)) formula
          (mapReferences (fun _ => none) formula) :=
        splicesReferences_mapReferences (fun _ => by simp [hzero]) formula
      rwa [mapReferences_none] at hnone
    · rename_i hmoved
      refine splicesReferences_mapReferences (fun _ => ?_) formula
      simpa using not_and_or.mp hmoved
  · have hsplices : SplicesReferences (LineEdit.concerns target onTarget) formula
        (followEdit edit target onTarget formula) :=
      splicesReferences_mapReferences (isSome_guarded _ _) formula
    exact ⟨hsplices, hsplices.eq_self⟩
  · have hsplices : SplicesReferences (Site.names old) formula (renameInFormula old new formula) :=
      splicesReferences_mapReferences (isSome_guarded _ _) formula
    exact ⟨hsplices, fun h => hsplices.eq_self (site_names_eq_false h)⟩

/-- Texts of strings and references to other sheets stay. -/
theorem splicesReferences_rewritten_quoted :
    (∀ o ∈ referencesIn "=\"Data!A1\"&Other!b2+a1",
      LineEdit.concerns "Data" false o.site = false) ∧
    followEdit (.deleteRows 0 1) "Data" false "=\"Data!A1\"&Other!b2+a1" =
      "=\"Data!A1\"&Other!b2+a1" ∧
    renameInFormula "Data" "Sums" "=\"Data!A1\"&Other!b2+a1" =
      "=\"Data!A1\"&Other!b2+a1" := by
  have hsplices := splicesReferences_rewritten "=\"Data!A1\"&Other!b2+a1"
  have hother : ∀ o ∈ referencesIn "=\"Data!A1\"&Other!b2+a1",
      LineEdit.concerns "Data" false o.site = false := by decide +kernel
  have hkinds : (tokenize "=\"Data!A1\"&Other!b2+a1").map Token.kind =
      [.equals, .text "Data!A1", .ampersand, .cell (some "Other") ⟨1, 1, false, false⟩, .plus,
        .cell none ⟨0, 0, false, false⟩, .finish] := by decide +kernel
  refine ⟨hother, (hsplices.2.1 _ _ _).2 hother, (hsplices.2.2 _ _).2 fun t ht name a hkind => ?_⟩
  have hmem : TokenKind.cell (some name) a ∈ _ := hkind ▸ hkinds ▸ List.mem_map_of_mem ht
  simp only [List.mem_cons, reduceCtorEq, TokenKind.cell.injEq, Option.some.injEq, false_and,
    false_or, or_false, List.not_mem_nil] at hmem
  rw [hmem.1]
  decide +kernel

end Rewriting

end Gridcalc
