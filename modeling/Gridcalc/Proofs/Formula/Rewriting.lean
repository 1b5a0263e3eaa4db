import Gridcalc.Proofs.Formula.Rereading
import Mathlib.Data.List.Chain

/-!
# Texts with references replaced

What the tokens of a text become when references in it are replaced.

* `Joined`: no two words stand side by side, as in every formula that can be read;
* `mapKinds`: the kinds of tokens with references replaced one by one;
* `Phrase`: characters that are read as tokens of some kinds, whatever follows them as a rule;
* `mapReferences_congr`: only references as they can stand in a text are replaced;
* `lexed_mapSites`: **where every reference is replaced by a phrase, the text becomes one of the
  replaced tokens**.
-/

namespace Gridcalc

/-! ## 1. Tokens side by side -/

namespace TokenKind

/-- What may follow an operand: an operator, a separator or a closing parenthesis. -/
def closes (k : TokenKind) : Bool := k.mark?.isSome && k != .openParen

/-- Whether two kinds of tokens may stand side by side. -/
def Joins (k k' : TokenKind) : Prop :=
  k.isWord = true → k'.closes = true ∨ (∃ s, k = .name s) ∧ k' = .openParen

end TokenKind

/-- Words and marks, no two words side by side. -/
structure Joined (ks : List TokenKind) : Prop where
  known : ∀ k ∈ ks, k.isWord = true ∨ ∃ m, k.mark? = some m
  chain : ks.IsChain TokenKind.Joins

section Joined

variable {k k' : TokenKind} {ks ks' : List TokenKind}

theorem Joined.nil : Joined [] := ⟨fun _ h => absurd h List.not_mem_nil, .nil⟩

theorem Joined.tail (h : Joined (k :: ks)) : Joined ks :=
  ⟨fun k' hk' => h.known k' (List.mem_cons_of_mem _ hk'), h.chain.tail⟩

theorem Joined.head_joins (h : Joined (k :: ks)) : ∀ k' ∈ ks.head?, k.Joins k' :=
  (List.isChain_cons.mp h.chain).1

/-- An address is followed by what closes an operand. -/
theorem Joined.closes {s : Option String} {a : CellRef} (h : Joined (.cell s a :: ks)) :
    ∀ k' ∈ ks.head?, k'.closes = true := by
  intro k' hk'
  rcases h.head_joins k' hk' rfl with h | ⟨⟨s, hs⟩, -⟩
  · exact h
  · cases hs

theorem mark?_of_closes (h : k.closes = true) : ∃ m, k.mark? = some m :=
  Option.isSome_iff_exists.mp (Bool.and_eq_true_iff.mp h).1

theorem Joined.mark_of_word (h : Joined (k :: ks)) (hk : k.isWord = true) :
    ∀ k' ∈ ks.head?, ∃ m, k'.mark? = some m := by
  intro k' hk'
  rcases h.head_joins k' hk' hk with h | ⟨-, rfl⟩
  · exact mark?_of_closes h
  · exact ⟨_, rfl⟩

theorem eq_openParen {m : List Char} (hm : k.mark? = some m) (hc : '(' ∈ m.head?) :
    k = .openParen := by
  cases k <;> cases hm <;> cases hc
  rfl

theorem not_isWord_of_mark? {m : List Char} (h : k.mark? = some m) : k.isWord = false := by
  cases k <;> cases h <;> rfl

end Joined

/-! ## 2. What follows a token -/

section Tails

variable {fin source tail tail' m : List Char} {t : Token} {ts : List Token} {k : TokenKind}

theorem kind_mem_head? (h : t ∈ ts.head?) : t.kind ∈ (ts.map Token.kind).head? := by
  rw [List.head?_map]
  exact Option.mem_map_of_mem _ h

/-- A text begins with a blank or with its first token. -/
theorem Spelled.mem_head? {c : Char} (h : Spelled fin ts)
    (hc : c ∈ (ts.flatMap Token.chars ++ fin).head?) :
    Text.isBlank c = true ∨ ∃ t ∈ ts.head?, c ∈ t.source.head? := by
  cases h with
  | nil hfin => exact .inl (hfin c (List.mem_of_mem_head? hc))
  | @cons t ts hgap hsource hrest =>
    rw [List.flatMap_cons, Token.chars, List.append_assoc, List.append_assoc] at hc
    cases hg : t.gap with
    | nil =>
      rw [hg, List.nil_append, List.head?_append_of_ne_nil _ hsource.ne_nil] at hc
      exact .inr ⟨t, rfl, hc⟩
    | cons d ds =>
      rw [hg] at hc hgap
      cases hc
      exact .inl (hgap c List.mem_cons_self)

theorem Spelled.drop (h : Spelled fin ts) (n : Nat) : Spelled fin (ts.drop n) := by
  induction n generalizing ts with
  | zero => exact h
  | succ n ih =>
    cases h with
    | nil hfin => exact .nil hfin
    | cons _ _ hrest => exact ih hrest

theorem ReadsAs.chars_ne_nil (h : ReadsAs k t.source tail) : t.chars ≠ [] := by
  rw [Token.chars]
  exact List.append_ne_nil_of_right_ne_nil _ h.ne_nil

theorem Spelled.source_eq (h : Spelled fin ts) (ht : t ∈ ts.head?) (hm : t.kind.mark? = some m) :
    t.source = m := by
  cases h with
  | nil => cases ht
  | cons hgap hsource hrest =>
    cases ht
    exact hsource.source_eq hm

/-- Words end in front of marks and of the end. -/
theorem Spelled.stops (h : Spelled fin ts) (hmark : ∀ t ∈ ts.head?, ∃ m, t.kind.mark? = some m) :
    Stops (ts.flatMap Token.chars ++ fin) := by
  intro c hc
  rcases h.mem_head? hc with hblank | ⟨t, ht, hsource⟩
  · exact Bool.or_eq_true_iff.mpr (.inl hblank)
  · obtain ⟨m, hm⟩ := hmark t ht
    exact endsWord_of_mark? hm c (h.source_eq ht hm ▸ hsource)

theorem Spelled.noCall (h : Spelled fin ts) (hclose : ∀ t ∈ ts.head?, t.kind.closes = true) :
    NoCall (ts.flatMap Token.chars ++ fin) := by
  rintro c hc rfl
  rcases h.mem_head? hc with hblank | ⟨t, ht, hsource⟩
  · exact absurd hblank (by decide)
  · obtain ⟨m, hm⟩ := mark?_of_closes (hclose t ht)
    rw [h.source_eq ht hm] at hsource
    have hc := hclose t ht
    rw [eq_openParen hm hsource] at hc
    cases hc

/-- **A mark is read again** in front of a tail that begins alike, or does not begin with an equals
    sign or a greater sign. -/
theorem ReadsAs.tail_mark (h : ReadsAs k source tail) (hm : k.mark? = some m)
    (htail : tail'.head? = tail.head? ∨ ∀ c ∈ tail'.head?, c ≠ '=' ∧ c ≠ '>') :
    ReadsAs k source tail' := by
  obtain rfl := h.source_eq hm
  rcases htail with hhead | hfree
  · obtain ⟨c, cs, hcs, hblank, hread⟩ := h
    cases tail with
    | nil =>
      cases tail' with
      | nil => exact ⟨c, cs, hcs, hblank, hread⟩
      | cons d ds => cases hhead
    | cons d ds =>
      cases tail' with
      | nil => cases hhead
      | cons d' ds' =>
        cases hhead
        refine ⟨c, cs, hcs, hblank, ?_⟩
        cases k <;> cases hm <;> cases hcs <;> first
          | rfl
          | (by_cases heq : d = '='
             · subst heq
               cases hread
             · by_cases hgt : d = '>'
               · subst hgt
                 first | rfl | cases hread
               · simp [readToken, heq, hgt])
  · exact readsAs_mark hm hfree

/-- **Tokens are read again** in front of a text that begins like what followed them. -/
theorem Spelled.lexed_append {us : List Token} {rest : List Char} {ks : List TokenKind}
    (h : Spelled fin (us ++ ts)) (hjoin : Joined ((us ++ ts).map Token.kind))
    (hhead : rest.head? = (ts.flatMap Token.chars ++ fin).head?) (hrest : Lexed rest ks) :
    Lexed (us.flatMap Token.chars ++ rest) (us.map Token.kind ++ ks) := by
  induction us with
  | nil => exact hrest
  | cons u us ih =>
    cases h with
    | cons hgap hsource hspelled =>
      have hmore := ih hspelled hjoin.tail
      have hhead' : (us.flatMap Token.chars ++ rest).head? =
          ((us ++ ts).flatMap Token.chars ++ fin).head? := by
        cases us with
        | nil => exact hhead
        | cons v vs =>
          cases hspelled with
          | cons _ hv _ =>
            simp only [List.cons_append, List.flatMap_cons, List.append_assoc]
            rw [List.head?_append_of_ne_nil _ hv.chars_ne_nil,
              List.head?_append_of_ne_nil _ hv.chars_ne_nil]
      rw [List.flatMap_cons, Token.chars, List.append_assoc, List.append_assoc]
      refine .token hgap ?_ hmore
      rcases hjoin.known _ List.mem_cons_self with hword | ⟨m, hm⟩
      · refine hsource.tail_word hword (hspelled.stops fun t' ht' => ?_) hhead'
        exact hjoin.mark_of_word hword t'.kind (kind_mem_head? ht')
      · exact hsource.tail_mark hm (.inl hhead')

theorem head_of_isWord (h : ReadsAs k source tail) (hk : k.isWord = true) :
    ∃ c ∈ source.head?, c ≠ '=' ∧ c ≠ '>' := by
  obtain ⟨c, cs, rfl, -, hread⟩ := h
  have hword : (readToken c (cs ++ tail)).1.isWord = true := by rw [hread]; exact hk
  refine ⟨c, rfl, ?_, ?_⟩ <;>
  · rintro rfl
    rcases exists_of_isWord hword with h | h | h | h | h
    · exact absurd h (by decide)
    · exact absurd h (by decide)
    · exact absurd h (by decide)
    · simp [startsNumber] at h
    · exact absurd h (by decide)

end Tails

/-! ## 3. Phrases -/

/-- Characters that are read as tokens of some kinds in front of what may follow an operand. -/
structure Phrase (cs : List Char) (ks : List TokenKind) : Prop where
  head : ∃ c ∈ cs.head?, c ≠ '=' ∧ c ≠ '>'
  lexed : ∀ {gap tail ks'}, AllBlank gap → Stops tail → NoCall tail → Lexed tail ks' →
    Lexed (gap ++ (cs ++ tail)) (ks ++ ks')

section Phrases

variable {c c' : Corner} {a b : CellRef} {k : TokenKind} {cs cl cr : List Char}
  {kl kr : List TokenKind}

/-- A word that is read in front of what may follow an operand. -/
theorem Phrase.word (hk : k.isWord = true)
    (h : ∀ tail, Stops tail → NoCall tail → ReadsAs k cs tail) : Phrase cs [k] :=
  ⟨head_of_isWord (h [] (fun _ h => nomatch h) fun _ h => nomatch h) hk,
    fun hgap hstop hcall htail => .token hgap (h _ hstop hcall) htail⟩

/-- Two phrases with a mark between them that may follow an operand. -/
theorem Phrase.joined {m : List Char} (hm : k.mark? = some m) (hk : k.closes = true)
    (hl : Phrase cl kl) (hr : Phrase cr kr) : Phrase (cl ++ (m ++ cr)) (kl ++ k :: kr) := by
  have hnogap : AllBlank [] := fun _ h => absurd h List.not_mem_nil
  have hmark : ∀ tail, ReadsAs k m (cr ++ tail) := fun tail => readsAs_mark hm fun d hd => by
    obtain ⟨e, he, hne⟩ := hr.head
    rw [List.mem_head?_append_of_mem_head? he] at hd
    cases hd
    exact hne
  refine ⟨?_, fun {gap tail ks'} hgap hstop hcall htail => ?_⟩
  · obtain ⟨d, hd, hne⟩ := hl.head
    exact ⟨d, List.mem_head?_append_of_mem_head? hd, hne⟩
  · have hmiddle := Lexed.token hnogap (hmark tail) (hr.lexed hnogap hstop hcall htail)
    obtain ⟨c, ms, hms⟩ := List.exists_cons_of_ne_nil (hmark tail).ne_nil
    have hhead : ∀ d ∈ (m ++ (cr ++ tail)).head?, d ∈ m.head? := by
      intro d hd
      rwa [hms] at hd ⊢
    have h := hl.lexed hgap (fun d hd => endsWord_of_mark? hm d (hhead d hd))
      (fun d hd hopen => by
        rw [eq_openParen hm (hopen ▸ hhead d hd)] at hk
        cases hk) hmiddle
    simpa using h

/-- Behind blanks, too, a phrase begins with none of the signs that join an operator. -/
theorem Phrase.head_behind_gap {ks : List TokenKind} {gap : List Char} (h : Phrase cs ks)
    (hgap : AllBlank gap) (tail : List Char) :
    ∀ c ∈ (gap ++ cs ++ tail).head?, c ≠ '=' ∧ c ≠ '>' := by
  intro c hc
  cases gap with
  | nil =>
    obtain ⟨d, hd, hne⟩ := h.head
    rw [List.nil_append, List.mem_head?_append_of_mem_head? hd] at hc
    cases hc
    exact hne
  | cons e es =>
    cases hc
    have hblank := hgap c List.mem_cons_self
    refine ⟨?_, ?_⟩ <;>
    · rintro rfl
      exact absurd hblank (by decide)

theorem Phrase.refError : Phrase ErrorValue.ref.literal.toList [.error .ref] :=
  .word rfl fun tail _ _ => readsAs_error (by decide) tail

/-- An address on the grid behind the name of the sheet. -/
theorem Corner.Proper.phrase (hc : c.Proper) (ha : a.onGrid = true) :
    Phrase (c.render a) [.cell c.sheet a] :=
  .word rfl fun tail => hc.reads a ha tail

/-- Two addresses on the grid with a colon between them. -/
theorem Corner.Proper.phrase_pair (hc : c.Proper) (hc' : c'.Proper) (ha : a.onGrid = true)
    (hb : b.onGrid = true) :
    Phrase (c.render a ++ ':' :: c'.render b) [.cell c.sheet a, .colon, .cell c'.sheet b] :=
  .joined (m := [':']) rfl rfl (hc.phrase ha) (hc'.phrase hb)

end Phrases

/-! ## 4. Replacing references -/

/-- An address with the sheet that it names. -/
abbrev Target := Option String × CellRef

/-- The kinds of tokens with references replaced, one address or two with a colon between them. -/
def mapKinds (place : Target → Option Target → List TokenKind) :
    List TokenKind → List TokenKind
  | .cell s a :: .colon :: .cell s' b :: ks => place (s, a) (some (s', b)) ++ mapKinds place ks
  | .cell s a :: ks => place (s, a) none ++ mapKinds place ks
  | k :: ks => k :: mapKinds place ks
  | [] => []

namespace Site

variable {site : Site} {t : Token} {ts : List Token} {n : Nat}

/-- What a reference means. -/
def targets (site : Site) : Target × Option Target :=
  ((site.first.sheet, site.first.address), site.second.map fun c => (c.sheet, c.address))

/-- The tokens of a reference. -/
def kinds (site : Site) : List TokenKind :=
  .cell site.first.sheet site.first.address :: match site.second with
    | none => []
    | some c => [.colon, .cell c.sheet c.address]

/-- A reference as it stands in a text. -/
structure Proper (site : Site) : Prop where
  first : site.first.Proper
  second : ∀ c ∈ site.second, c.Proper

/-- A reference is one address, or two with a colon between them. -/
theorem read?_eq_some (h : read? t ts = some (site, n)) :
    ∃ s a, t.kind = .cell s a ∧ site.first = ⟨markOf t.source, s, a⟩ ∧
      ((site.second = none ∧ n = 0 ∧ ∀ s' b ks,
          ts.map Token.kind ≠ .colon :: .cell s' b :: ks) ∨
        ∃ colon t' ts' s' b, ts = colon :: t' :: ts' ∧ colon.kind = .colon ∧
          t'.kind = .cell s' b ∧ site.second = some ⟨markOf t'.source, s', b⟩ ∧ n = 2) := by
  unfold read? at h
  split at h
  · cases h
  rename_i first hfirst
  unfold Corner.ofToken? at hfirst
  split at hfirst
  case h_2 => cases hfirst
  rename_i s a hkind
  cases hfirst
  refine ⟨s, a, hkind, ?_⟩
  split at h
  · rename_i colon t' ts'
    split at h
    · rename_i second hcolon hsecond
      unfold Corner.ofToken? at hsecond
      split at hsecond
      · rename_i s' b hkind'
        cases hsecond
        cases h
        exact ⟨rfl, .inr ⟨colon, t', ts', s', b, rfl, hcolon, hkind', rfl, rfl⟩⟩
      · cases hsecond
    · rename_i hno
      cases h
      refine ⟨rfl, .inl ⟨rfl, rfl, fun s' b ks hks => ?_⟩⟩
      simp only [List.map_cons, List.cons.injEq] at hks
      refine hno ⟨markOf t'.source, s', b⟩ hks.1 ?_
      rw [Corner.ofToken?, hks.2.1]
  · rename_i hshort
    cases h
    refine ⟨rfl, .inl ⟨rfl, rfl, fun s' b ks hks => ?_⟩⟩
    match ts, hks with
    | [], hks => exact absurd hks (by simp)
    | [colon], hks => exact absurd hks (by simp)
    | colon :: t' :: ts', _ => exact hshort colon t' ts' rfl

theorem read?_eq_none (h : read? t ts = none) : ∀ s a, t.kind ≠ .cell s a := by
  intro s a hkind
  unfold read? at h
  rw [Corner.ofToken?, hkind] at h
  dsimp only at h
  split at h
  · split at h <;> cases h
  · cases h

/-- The tokens that belong to a reference. -/
theorem kinds_read? (h : read? t ts = some (site, n)) :
    site.kinds = (t :: ts.take n).map Token.kind := by
  obtain ⟨s, a, hkind, hfirst, ⟨hsecond, rfl, -⟩ |
    ⟨colon, t', ts', s', b, rfl, hcolon, hkind', hsecond, rfl⟩⟩ := read?_eq_some h
  · simp [kinds, hfirst, hsecond, hkind]
  · simp [kinds, hfirst, hsecond, hkind, hcolon, hkind']

end Site

section Mapping

variable {edit : Site → Option (List Char)} {place : Target → Option Target → List TokenKind}
  {fin : List Char} {t : Token} {ts : List Token} {k : TokenKind} {ks : List TokenKind}

theorem mapKinds_single {s : Option String} {a : CellRef}
    (h : ∀ s' b ks', ks ≠ .colon :: .cell s' b :: ks') :
    mapKinds place (.cell s a :: ks) = place (s, a) none ++ mapKinds place ks := by
  rw [mapKinds]
  intro s' b ks' hks
  exact h s' b ks' hks

theorem mapKinds_other (h : ∀ s a, k ≠ .cell s a) :
    mapKinds place (k :: ks) = k :: mapKinds place ks := by
  cases k <;> first | rfl | exact absurd rfl (h _ _)

/-- A reference is replaced first, and then what follows it. -/
theorem mapKinds_site {site : Site} {n : Nat} (h : Site.read? t ts = some (site, n)) :
    mapKinds place ((t :: ts).map Token.kind) =
      place site.targets.1 site.targets.2 ++ mapKinds place ((ts.drop n).map Token.kind) := by
  obtain ⟨s, a, hkind, hfirst, ⟨hsecond, rfl, hno⟩ |
    ⟨colon, t', ts', s', b, rfl, hcolon, hkind', hsecond, rfl⟩⟩ := Site.read?_eq_some h
  · rw [List.map_cons, hkind, mapKinds_single hno, Site.targets, hfirst, hsecond]
    rfl
  · rw [List.map_cons, List.map_cons, List.map_cons, hkind, hcolon, hkind', mapKinds, Site.targets,
      hfirst, hsecond]
    rfl

/-- What follows a reference follows an address. -/
theorem Joined.behind_site {site : Site} {n : Nat} (hjoin : Joined ((t :: ts).map Token.kind))
    (h : Site.read? t ts = some (site, n)) :
    ∃ s a, Joined (.cell s a :: (ts.drop n).map Token.kind) := by
  obtain ⟨s, a, hkind, -, ⟨-, rfl, -⟩ | ⟨colon, t', ts', s', b, rfl, -, hkind', -, rfl⟩⟩ :=
    Site.read?_eq_some h
  · rw [List.map_cons, hkind] at hjoin
    exact ⟨s, a, hjoin⟩
  · have htail := hjoin.tail.tail
    rw [List.map_cons, hkind'] at htail
    exact ⟨s', b, htail⟩

/-- The text begins as before unless it begins with a reference. -/
theorem head?_mapSites (h : Spelled fin ts)
    (hfirst : ∀ t ∈ ts.head?, ∀ s a, t.kind ≠ .cell s a) :
    (mapSites edit ts ++ fin).head? = (ts.flatMap Token.chars ++ fin).head? := by
  cases h with
  | nil hfin =>
    rw [mapSites]
    rfl
  | @cons t ts hgap hsource hrest =>
    have hread : Site.read? t ts = none := by
      cases hr : Site.read? t ts with
      | none => rfl
      | some found =>
        obtain ⟨s, a, hkind, -⟩ := Site.read?_eq_some hr
        exact absurd hkind (hfirst t rfl s a)
    rw [mapSites, hread]
    dsimp only
    rw [List.flatMap_cons, List.append_assoc, List.append_assoc,
      List.head?_append_of_ne_nil _ hsource.chars_ne_nil,
      List.head?_append_of_ne_nil _ hsource.chars_ne_nil]

theorem Joined.no_cell_of_word {s : Option String} {a : CellRef} (h : Joined (k :: ks))
    (hk : k.isWord = true) : ∀ k' ∈ ks.head?, k' ≠ .cell s a := by
  rintro k' hk' rfl
  obtain ⟨m, hm⟩ := h.mark_of_word hk _ hk'
  cases hm

/-- What has to stand in place of a reference: nothing else, or a phrase. -/
def Replaces (edit : Site → Option (List Char)) (place : Target → Option Target → List TokenKind) :
    Prop :=
  ∀ site : Site, site.Proper → match edit site with
    | none => place site.targets.1 site.targets.2 = site.kinds
    | some cs => Phrase cs (place site.targets.1 site.targets.2)

theorem Spelled.site_proper {site : Site} {n : Nat} (h : Spelled fin (t :: ts))
    (hread : Site.read? t ts = some (site, n)) : site.Proper := by
  obtain ⟨s, a, hkind, hfirst, hrest⟩ := Site.read?_eq_some hread
  cases h with
  | cons hgap hsource hspelled =>
    rw [hkind] at hsource
    refine ⟨hfirst ▸ hsource.proper, fun c hc => ?_⟩
    rcases hrest with ⟨hnone, -⟩ | ⟨colon, t', ts', s', b, rfl, -, hkind', hsecond, -⟩
    · rw [hnone] at hc
      cases hc
    · rw [hsecond] at hc
      cases hc
      cases hspelled with
      | cons _ _ hspelled =>
        cases hspelled with
        | cons _ hsource' _ =>
          rw [hkind'] at hsource'
          exact hsource'.proper

/-- Only references as they can stand in a text are replaced. -/
theorem mapSites_congr {edit' : Site → Option (List Char)}
    (hedit : ∀ site : Site, site.Proper → edit site = edit' site) (h : Spelled fin ts) :
    mapSites edit ts = mapSites edit' ts := by
  fun_induction mapSites edit ts with
  | case1 => rw [mapSites]
  | case2 t ts hread ih =>
    rw [mapSites, hread]
    cases h with
    | cons _ _ hspelled => exact congrArg _ (ih hspelled)
  | case3 t ts site n hread here ih =>
    rw [mapSites, hread]
    dsimp only
    rw [← hedit site (h.site_proper hread), ih (h.drop (n + 1))]

theorem mapReferences_congr {edit' : Site → Option (List Char)}
    (hedit : ∀ site : Site, site.Proper → edit site = edit' site) (formula : String) :
    mapReferences edit formula = mapReferences edit' formula := by
  unfold mapReferences
  dsimp only
  rw [mapSites_congr hedit (spelled_scan formula.toList)]

/-- Behind a mark the text begins as before, or with a word. -/
theorem head?_mapSites_or (hedit : Replaces edit place) (h : Spelled fin ts) :
    (mapSites edit ts ++ fin).head? = (ts.flatMap Token.chars ++ fin).head? ∨
      ∀ c ∈ (mapSites edit ts ++ fin).head?, c ≠ '=' ∧ c ≠ '>' := by
  cases ts with
  | nil => exact .inl (head?_mapSites h fun _ ht => nomatch ht)
  | cons t ts =>
    cases hread : Site.read? t ts with
    | none =>
      refine .inl (head?_mapSites h ?_)
      rintro t' ⟨⟩
      exact Site.read?_eq_none hread
    | some found =>
      obtain ⟨site, n⟩ := found
      have hphrase := hedit site (h.site_proper hread)
      rw [mapSites, hread]
      dsimp only
      cases h with
      | cons hgap hsource hspelled =>
        cases hcs : edit site with
        | none =>
          left
          dsimp only
          rw [List.flatMap_cons, List.append_assoc, List.append_assoc, List.append_assoc,
            List.head?_append_of_ne_nil _ hsource.chars_ne_nil,
            List.head?_append_of_ne_nil _ hsource.chars_ne_nil]
        | some cs =>
          right
          rw [hcs] at hphrase
          dsimp only
          rw [List.append_assoc _ _ fin]
          exact hphrase.head_behind_gap hgap _

/-- Behind an address the text begins as before, with what closes an operand. -/
theorem tail_of_address (edit : Site → Option (List Char)) {s : Option String} {a : CellRef}
    (h : Spelled fin ts)
    (hjoin : Joined (.cell s a :: ts.map Token.kind)) :
    (mapSites edit ts ++ fin).head? = (ts.flatMap Token.chars ++ fin).head? ∧
      Stops (ts.flatMap Token.chars ++ fin) ∧ NoCall (mapSites edit ts ++ fin) := by
  have hclose : ∀ t ∈ ts.head?, t.kind.closes = true := fun t ht =>
    hjoin.closes t.kind (kind_mem_head? ht)
  have hhead : (mapSites edit ts ++ fin).head? = (ts.flatMap Token.chars ++ fin).head? := by
    refine head?_mapSites h fun t ht s a hkind => ?_
    have hc := hclose t ht
    rw [hkind] at hc
    cases hc
  refine ⟨hhead, h.stops fun t ht => mark?_of_closes (hclose t ht), ?_⟩
  rw [NoCall, hhead]
  exact h.noCall hclose

/-- **A text with its references replaced** is a text of the replaced tokens. -/
theorem lexed_mapSites (hedit : Replaces edit place) (h : Spelled fin ts)
    (hjoin : Joined (ts.map Token.kind)) :
    Lexed (mapSites edit ts ++ fin) (mapKinds place (ts.map Token.kind)) := by
  fun_induction mapSites edit ts with
  | case1 =>
    cases h with
    | nil hfin => exact .finish hfin
  | case2 t ts hread ih =>
    cases h with
    | cons hgap hsource hspelled =>
      have hrest := ih hspelled hjoin.tail
      rw [List.map_cons, mapKinds_other (Site.read?_eq_none hread), Token.chars, List.append_assoc,
        List.append_assoc]
      refine .token hgap ?_ hrest
      rcases hjoin.known _ List.mem_cons_self with hword | ⟨m, hm⟩
      · refine hsource.tail_word hword (hspelled.stops ?_) (head?_mapSites hspelled ?_)
        · exact fun t' ht' => hjoin.mark_of_word hword t'.kind (kind_mem_head? ht')
        · intro t' ht' s a hkind
          exact hjoin.no_cell_of_word hword t'.kind (kind_mem_head? ht') hkind
      · exact hsource.tail_mark hm (head?_mapSites_or hedit hspelled)
  | case3 t ts site n hread here ih =>
    have hphrase := hedit site (h.site_proper hread)
    obtain ⟨s, a, hbehind⟩ := hjoin.behind_site hread
    have hrest : Spelled fin (ts.drop n) := h.drop (n + 1)
    have hmore := ih hrest hbehind.tail
    obtain ⟨hhead, hstop, hcall⟩ := tail_of_address edit hrest hbehind
    rw [mapKinds_site hread]
    cases hcs : edit site with
    | none =>
      rw [hcs] at hphrase
      have hhere : here = (t :: ts.take n).flatMap Token.chars := by
        simp only [here, hcs, List.flatMap_cons]
      have hplace : place site.targets.1 site.targets.2 = (t :: ts.take n).map Token.kind :=
        hphrase.trans (Site.kinds_read? hread)
      have hall : t :: ts = t :: ts.take n ++ ts.drop n := by
        rw [List.cons_append, List.take_append_drop]
      rw [hall] at h hjoin
      rw [hhere, hplace, List.append_assoc]
      exact h.lexed_append hjoin hhead hmore
    | some cs =>
      rw [hcs] at hphrase
      have hhere : here = t.gap ++ cs := by simp only [here, hcs]
      cases h with
      | cons hgap _ _ =>
        rw [hhere, List.append_assoc, List.append_assoc]
        exact hphrase.lexed hgap (hstop.of_head hhead) hcall hmore

end Mapping

end Gridcalc
