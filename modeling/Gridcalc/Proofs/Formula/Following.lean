import Gridcalc.Proofs.Formula.Recognised
import Gridcalc.Proofs.Formula.Lines
import Gridcalc.Proofs.Formula.Rewriting
import Gridcalc.Proofs.Formula.Trees

/-!
# Formulas with references replaced

Replacing the references in the text of a formula replaces them in its tree.

* `onGrid_of_mem_references`: the references of a formula that was read lie on the largest grid;
* `Derives.mapKinds`: tokens with their references replaced derive the tree with them replaced;
* `parseFormula_mapReferences`: **the text with its references replaced is read as the tree with
  them replaced**;
* `noGroupCorner_mapReferences`: no colon gets behind a parenthesis, so that references can be
  replaced again;
* `parseFormula_followEdit`: in particular a formula that follows an insertion or deletion.
-/

namespace Gridcalc

/-! ## 1. Derived tokens side by side -/

section Joined

variable {n : Nat} {level : Level} {k : TokenKind} {ks ks' : List TokenKind} {e : Expr}

theorem Joined.single (hk : k.isWord = true ∨ ∃ m, k.mark? = some m) : Joined [k] :=
  ⟨fun _ hk' => List.mem_singleton.mp hk' ▸ hk, .singleton _⟩

theorem Joined.cons_mark {m : List Char} (hm : k.mark? = some m) (h : Joined ks) :
    Joined (k :: ks) := by
  refine ⟨fun k' hk' => ?_, h.chain.cons fun _ _ hword => ?_⟩
  · rcases List.mem_cons.mp hk' with rfl | hk'
    · exact .inr ⟨m, hm⟩
    · exact h.known k' hk'
  · rw [not_isWord_of_mark? hm] at hword
    cases hword

theorem Joined.append_closes (h : Joined ks) (hk : k.closes = true) (h' : Joined ks') :
    Joined (ks ++ k :: ks') := by
  obtain ⟨m, hm⟩ := mark?_of_closes hk
  have hright := h'.cons_mark hm
  refine ⟨fun k' hk' => ?_, h.chain.append hright.chain ?_⟩
  · rcases List.mem_append.mp hk' with hk' | hk'
    · exact h.known k' hk'
    · exact hright.known k' hk'
  · rintro k' - k'' ⟨⟩ -
    exact .inl hk

theorem closes_of_operatorOf {op : Operator} (h : level.operatorOf k = some op) :
    k.closes = true ∧ k ≠ .colon ∧ ∀ s a, k ≠ .cell s a := by
  cases level <;> cases k <;> cases h <;> exact ⟨rfl, by simp, by simp⟩

/-- No two words stand side by side in what is derived. -/
theorem Derives.joined (h : Derives n level ks e) : Joined ks := by
  induction h with
  | tighter _ ih => exact ih
  | binary hop _ _ ihl ihr => exact ihl.append_closes (closes_of_operatorOf hop).1 ihr
  | range _ _ ih => exact ih.append_closes rfl (.single (.inl rfl))
  | group _ ih => exact (ih.append_closes rfl .nil).cons_mark rfl
  | emptyCall name =>
    have hparens : Joined [.openParen, .closeParen] := (Joined.single (.inr ⟨_, rfl⟩)).cons_mark rfl
    refine ⟨fun k hk => ?_, hparens.chain.cons fun k hk _ => ?_⟩
    · rcases List.mem_cons.mp hk with rfl | hk
      · exact .inl rfl
      · exact hparens.known k hk
    · cases hk
      exact .inr ⟨⟨name, rfl⟩, rfl⟩
  | firstArgument name _ ih =>
    have hrest := ih.cons_mark (k := .openParen) rfl
    refine ⟨fun k hk => ?_, hrest.chain.cons fun k hk _ => ?_⟩
    · rcases List.mem_cons.mp hk with rfl | hk
      · exact .inl rfl
      · exact hrest.known k hk
    · cases hk
      exact .inr ⟨⟨name, rfl⟩, rfl⟩
  | nextArgument _ _ ihcall ih => exact ihcall.append_closes rfl ih
  | call _ ih => exact ih.append_closes rfl .nil
  | _ => exact .single (.inl rfl)

end Joined

/-! ## 2. References and tokens -/

section References

variable {n : Nat} {level : Level} {ks : List TokenKind} {e : Expr} {r : Reference} {a : CellRef}
  {cs : List Char}

/-- The addresses of the references of a tree are among its tokens. -/
theorem Derives.exists_cell_mem (h : Derives n level ks e) (hr : r ∈ e.references)
    (ha : a ∈ r.corners) : ∃ sheet, TokenKind.cell sheet a ∈ ks := by
  induction h generalizing r with
  | tighter _ ih => exact ih hr ha
  | binary _ _ _ ihl ihr =>
    rcases List.mem_append.mp hr with hr | hr
    · obtain ⟨sheet, hmem⟩ := ihl hr ha
      exact ⟨sheet, List.mem_append_left _ hmem⟩
    · obtain ⟨sheet, hmem⟩ := ihr hr ha
      exact ⟨sheet, List.mem_append_right _ (List.mem_cons_of_mem _ hmem)⟩
  | @range n ks sheet first sheet' second _ _ ih =>
    cases List.mem_singleton.mp hr
    rcases List.mem_pair.mp ha with rfl | rfl
    · obtain ⟨sheet, hmem⟩ := ih (r := .cell sheet _) List.mem_cons_self List.mem_cons_self
      exact ⟨sheet, List.mem_append_left _ hmem⟩
    · exact ⟨sheet', by simp⟩
  | cell sheet address =>
    cases List.mem_singleton.mp hr
    cases List.mem_singleton.mp ha
    exact ⟨sheet, List.mem_cons_self⟩
  | group _ ih =>
    obtain ⟨sheet, hmem⟩ := ih hr ha
    exact ⟨sheet, by simp [hmem]⟩
  | firstArgument _ _ ih =>
    rw [Expr.references_call, List.flatMap_singleton] at hr
    obtain ⟨sheet, hmem⟩ := ih hr ha
    exact ⟨sheet, by simp [hmem]⟩
  | nextArgument _ _ ihcall ih =>
    rw [Expr.references_call, List.flatMap_append, List.mem_append, List.flatMap_singleton,
      ← Expr.references_call] at hr
    rcases hr with hr | hr
    · obtain ⟨sheet, hmem⟩ := ihcall hr ha
      exact ⟨sheet, List.mem_append_left _ hmem⟩
    · obtain ⟨sheet, hmem⟩ := ih hr ha
      exact ⟨sheet, List.mem_append_right _ (List.mem_cons_of_mem _ hmem)⟩
  | call _ ih =>
    obtain ⟨sheet, hmem⟩ := ih hr ha
    exact ⟨sheet, List.mem_append_left _ hmem⟩
  | _ => simp [Expr.references, Expr.referencesOfArgs] at hr

/-- No address off the largest grid is read as one. -/
theorem Lexed.onGrid_of_mem {sheet : Option String} {a : CellRef} (h : Lexed cs ks)
    (hmem : TokenKind.cell sheet a ∈ ks) : a.onGrid = true := by
  induction h with
  | finish _ => exact absurd hmem List.not_mem_nil
  | token _ hsource _ ih =>
    rcases List.mem_cons.mp hmem with rfl | hmem
    · exact hsource.proper.onGrid
    · exact ih hmem

/-- **The references of a formula lie on the largest grid.** -/
theorem onGrid_of_mem_references {formula : String} (hread : parseFormula formula = ⟨some e, []⟩)
    (hr : r ∈ e.references) (ha : a ∈ r.corners) : a.onGrid = true := by
  obtain ⟨ks, hkinds, hderives, -⟩ := parseFormula_eq_iff.mp hread
  have hlexed := lexed_kindsOf formula.toList
  rw [hkinds] at hlexed
  obtain ⟨sheet, hmem⟩ := hderives.exists_cell_mem hr ha
  exact hlexed.onGrid_of_mem (List.mem_cons_of_mem _ hmem)

end References

/-! ## 3. Derived tokens with references replaced -/

/-- No colon directly behind a closing parenthesis. -/
def NoGroupCorner (ks : List TokenKind) : Prop :=
  ks.IsChain fun k k' => k = .closeParen → k' ≠ .colon

/-- What stands in place of references is a tree by itself, without operators. -/
structure Grows (place : Target → Option Target → List TokenKind) (tree : Reference → Expr) :
    Prop where
  single : ∀ (n : Nat) (s : Option String) (a : CellRef),
    Derives n .operand (place (s, a) none) (tree (.cell s a))
  pair : ∀ (n : Nat) (s : Option String) (a : CellRef) (s' : Option String) (b : CellRef),
    cornersAgree s s' = true →
      Derives n .range (place (s, a) (some (s', b))) (tree (.range s ⟨a, b⟩))
  opCount : ∀ t t', opCount (place t t') = 0

section Mapping

variable {place : Target → Option Target → List TokenKind} {tree : Reference → Expr}
  {n : Nat} {level : Level} {k : TokenKind} {ks ks' : List TokenKind} {e : Expr}

/-- References do not reach over what is neither a colon nor an address. -/
theorem mapKinds_append (h : ∀ k ∈ ks'.head?, k ≠ .colon ∧ ∀ s a, k ≠ .cell s a) :
    mapKinds place (ks ++ ks') = mapKinds place ks ++ mapKinds place ks' := by
  induction ks using mapKinds.induct with
  | case1 s a s' b ks ih =>
    simp only [List.cons_append, mapKinds, ih, List.append_assoc]
  | case2 s a ks hno ih =>
    rw [List.cons_append, mapKinds_single, mapKinds_single hno, ih, List.append_assoc]
    intro s' b ks'' heq
    rcases ks with _ | ⟨k, _ | ⟨k', ks⟩⟩
    · exact (h .colon (by rw [← List.nil_append ks', heq]; rfl)).1 rfl
    · have hrest : ks' = .cell s' b :: ks'' := (List.cons.inj heq).2
      exact (h (.cell s' b) (by rw [hrest]; rfl)).2 s' b rfl
    · simp only [List.cons_append, List.cons.injEq] at heq
      obtain ⟨rfl, rfl, -⟩ := heq
      exact hno s' b ks rfl
  | case3 k ks hpair hcell ih =>
    have hother : ∀ s a, k ≠ .cell s a := fun s a hk => hcell s a hk
    rw [List.cons_append, mapKinds_other hother, mapKinds_other hother, ih, List.cons_append]
  | case4 => rfl

theorem mapKinds_append_cons (hcolon : k ≠ .colon) (hcell : ∀ s a, k ≠ .cell s a) :
    mapKinds place (ks ++ k :: ks') = mapKinds place ks ++ k :: mapKinds place ks' := by
  rw [mapKinds_append, mapKinds_other hcell]
  rintro k' ⟨⟩
  exact ⟨hcolon, hcell⟩

theorem opCount_mapKinds (h : ∀ t t', opCount (place t t') = 0) (ks : List TokenKind) :
    opCount (mapKinds place ks) = opCount ks := by
  have happend : ∀ ks ks', opCount (ks ++ ks') = opCount ks + opCount ks' := fun _ _ =>
    List.countP_append
  induction ks using mapKinds.induct with
  | case1 s a s' b ks ih =>
    rw [mapKinds, happend, h, ih, Nat.zero_add]
    simp [opCount, TokenKind.isOperator, comparisonOf, joinOf, sumOf, productOf]
  | case2 s a ks hno ih =>
    rw [mapKinds_single hno, happend, h, ih, Nat.zero_add]
    simp [opCount, TokenKind.isOperator, comparisonOf, joinOf, sumOf, productOf]
  | case3 k ks hpair hcell ih =>
    rw [mapKinds_other fun s a hk => hcell s a hk]
    simp only [opCount, List.countP_cons] at ih ⊢
    rw [ih]
  | case4 => rfl

/-- An operand that is an address is one token, or stands in parentheses. -/
theorem Derives.eq_cell {s : Option String} {a : CellRef}
    (h : Derives n .operand ks (.cell s a)) :
    ks = [.cell s a] ∨ .closeParen ∈ ks.getLast? := by
  generalize hlevel : Level.operand = level at h
  generalize he : Expr.cell s a = e at h
  induction h with
  | tighter _ ih =>
    subst hlevel
    exact ih rfl he
  | cell sheet address =>
    cases he
    exact .inl rfl
  | group _ _ => exact .inr List.getLast?_concat
  | call _ _ => exact .inr List.getLast?_concat
  | _ => cases he

/-- **Tokens with their references replaced derive the tree with them replaced.** -/
theorem Derives.mapKinds (hgrows : Grows place tree) (h : Derives n level ks e)
    (hplain : NoGroupCorner ks) :
    Derives n level (Gridcalc.mapKinds place ks) (e.mapReferences tree) := by
  induction h with
  | tighter _ ih => exact .tighter (ih hplain)
  | binary hop _ _ ihl ihr =>
    obtain ⟨-, hcolon, hcell⟩ := closes_of_operatorOf hop
    rw [mapKinds_append_cons hcolon hcell, Expr.mapReferences]
    exact .binary hop (ihl hplain.left_of_append) (ihr hplain.right_of_append.tail)
  | @range n ks sheet first sheet' second h hagree ih =>
    rcases h.eq_cell with rfl | hlast
    · have hpair := hgrows.pair n sheet first sheet' second hagree
      simpa [Gridcalc.mapKinds, Expr.mapReferences] using hpair
    · -- no corner of a range stands in parentheses
      exact absurd rfl ((List.isChain_append.mp hplain).2.2 _ hlast .colon rfl rfl)
  | cell sheet address =>
    have hsingle := hgrows.single
    simpa [Gridcalc.mapKinds, Expr.mapReferences] using hsingle _ sheet address
  | group _ ih =>
    rw [List.cons_append, mapKinds_other (by simp), mapKinds_append_cons (by simp) (by simp)]
    exact .group (ih hplain.tail.left_of_append)
  | emptyCall name => exact .emptyCall name
  | firstArgument name _ ih =>
    rw [mapKinds_other (by simp), mapKinds_other (by simp)]
    exact .firstArgument name (ih hplain.tail.tail)
  | nextArgument _ _ ihcall ih =>
    rw [mapKinds_append_cons (by simp) (by simp)]
    have hfront := ihcall hplain.left_of_append
    have hnext := ih hplain.right_of_append.tail
    rw [Expr.mapReferences, Expr.mapReferencesOfArgs_eq] at hfront ⊢
    rw [List.map_append]
    exact .nextArgument hfront hnext
  | call _ ih =>
    rw [mapKinds_append_cons (by simp) (by simp)]
    exact .call (ih hplain.left_of_append)
  | number x => exact .number x
  | text t => exact .text t
  | error e => exact .error e
  | boolean h => exact .boolean h

/-- What stands in place of references neither begins with a colon nor closes a parenthesis. -/
def Sealed (place : Target → Option Target → List TokenKind) : Prop :=
  ∀ t t', ∃ k ks, place t t' = k :: ks ∧ k ≠ .colon ∧ .closeParen ∉ k :: ks

theorem NoGroupCorner.of_not_mem (h : .closeParen ∉ ks) : NoGroupCorner ks := by
  rw [NoGroupCorner, List.isChain_iff_forall_rel_of_append_cons_cons]
  rintro k k' front back rfl rfl
  exact absurd (by simp) h

theorem exists_mapKinds_cell (place : Target → Option Target → List TokenKind)
    (s : Option String) (a : CellRef) (ks : List TokenKind) :
    ∃ t' rest, Gridcalc.mapKinds place (.cell s a :: ks) = place (s, a) t' ++ rest := by
  by_cases h : ∃ s' b ks', ks = .colon :: .cell s' b :: ks'
  · obtain ⟨s', b, ks', rfl⟩ := h
    exact ⟨_, _, rfl⟩
  · exact ⟨none, _, mapKinds_single fun s' b ks' e => h ⟨s', b, ks', e⟩⟩

/-- No colon gets behind a parenthesis. -/
theorem NoGroupCorner.mapKinds (hsealed : Sealed place) (h : NoGroupCorner ks) :
    NoGroupCorner (Gridcalc.mapKinds place ks) := by
  have hbehind : ∀ t t' ks', NoGroupCorner ks' → NoGroupCorner (place t t' ++ ks') := by
    intro t t' ks' hks'
    obtain ⟨k, ks, hplace, -, hclose⟩ := hsealed t t'
    rw [hplace]
    refine (NoGroupCorner.of_not_mem hclose).append hks' fun k' hlast _ _ hk' => ?_
    exact absurd (List.mem_of_getLast? hlast) (hk' ▸ hclose)
  induction ks using mapKinds.induct with
  | case1 s a s' b ks ih => exact hbehind _ _ _ (ih h.tail.tail.tail)
  | case2 s a ks hno ih =>
    rw [mapKinds_single hno]
    exact hbehind _ _ _ (ih h.tail)
  | case3 k ks hpair hcell ih =>
    rw [mapKinds_other fun s a hk => hcell s a hk]
    refine (ih h.tail).cons fun k' hhead hk => ?_
    cases ks with
    | nil => cases hhead
    | cons k'' ks =>
      have hnext : k'' ≠ .colon := (List.isChain_cons.mp h).1 k'' rfl hk
      by_cases hcell' : ∃ s a, k'' = .cell s a
      · -- what begins in place of a reference is no colon
        obtain ⟨s, a, rfl⟩ := hcell'
        obtain ⟨t', rest, hplace⟩ := exists_mapKinds_cell place s a ks
        obtain ⟨k₁, ks₁, hk₁, hne, -⟩ := hsealed (s, a) t'
        rw [hplace, hk₁] at hhead
        cases hhead
        exact hne
      · rw [mapKinds_other fun s a e => hcell' ⟨s, a, e⟩] at hhead
        cases hhead
        exact hnext
  | case4 => exact .nil

end Mapping

/-! ## 4. Formulas with references replaced -/

section Formulas

variable {edit : Site → Option (List Char)} {place : Target → Option Target → List TokenKind}
  {tree : Reference → Expr} {formula : String} {e : Expr}

/-- The tokens of a formula that can be read stand side by side as they should. -/
theorem joined_kindsOf (hread : parseFormula formula = ⟨some e, []⟩) :
    Joined (kindsOf formula.toList) := by
  obtain ⟨ks, hkinds, hderives, -⟩ := parseFormula_eq_iff.mp hread
  rw [hkinds]
  exact hderives.joined.cons_mark rfl

/-- The tokens of the text with its references replaced are the tokens with them replaced. -/
theorem kindsOf_mapReferences (hedit : Replaces edit place)
    (hread : parseFormula formula = ⟨some e, []⟩) :
    kindsOf (mapReferences edit formula).toList = mapKinds place (kindsOf formula.toList) := by
  have hlexed := lexed_mapSites hedit (spelled_scan formula.toList) (joined_kindsOf hread)
  rw [mapReferences, String.toList_ofList]
  exact lexed_iff.mp hlexed

/-- **The text with its references replaced is read as the tree with them replaced.** -/
theorem parseFormula_mapReferences (hedit : Replaces edit place) (hgrows : Grows place tree)
    (hread : parseFormula formula = ⟨some e, []⟩)
    (hplain : NoGroupCorner (kindsOf formula.toList)) :
    parseFormula (mapReferences edit formula) = ⟨some (e.mapReferences tree), []⟩ := by
  have hmapped := kindsOf_mapReferences hedit hread
  obtain ⟨ks, hkinds, hderives, hcount⟩ := parseFormula_eq_iff.mp hread
  rw [hkinds] at hplain hmapped
  rw [mapKinds_other (by simp)] at hmapped
  refine parseFormula_eq_iff.mpr ⟨_, hmapped, hderives.mapKinds hgrows hplain.tail, ?_⟩
  rw [opCount_mapKinds hgrows.opCount]
  exact hcount

/-- No colon gets behind a parenthesis. -/
theorem noGroupCorner_mapReferences (hedit : Replaces edit place) (hsealed : Sealed place)
    (hread : parseFormula formula = ⟨some e, []⟩)
    (hplain : NoGroupCorner (kindsOf formula.toList)) :
    NoGroupCorner (kindsOf (mapReferences edit formula).toList) := by
  rw [kindsOf_mapReferences hedit hread]
  exact hplain.mapKinds hsealed

end Formulas

/-! ## 5. Insertions and deletions -/

section Lines

variable {edit : LineEdit}

namespace LineEdit

/-- Whether a reference means the sheet that is edited. -/
def means (target : String) (onTarget : Bool) : Option String → Bool
  | some sheet => Text.sameIgnoringCase sheet target
  | none => onTarget

/-- A reference after the edit: a reference error where nothing is left of it. -/
def follow (edit : LineEdit) (target : String) (onTarget : Bool) : Reference → Expr
  | .cell sheet a =>
    if means target onTarget sheet then
      match edit.address? a with
      | some a => .cell sheet a
      | none => .error .ref
    else .cell sheet a
  | .range sheet r =>
    if means target onTarget sheet then
      match edit.corners? r.start r.stop with
      | some (a, b) => .range sheet ⟨a, b⟩
      | none => .error .ref
    else .range sheet r

/-- The tokens of a reference after the edit. -/
def place (edit : LineEdit) (target : String) (onTarget : Bool) (t : Target) :
    Option Target → List TokenKind
  | none =>
    if means target onTarget t.1 then
      match edit.address? t.2 with
      | some a => [.cell t.1 a]
      | none => [.error .ref]
    else [.cell t.1 t.2]
  | some t' =>
    if means target onTarget (t.1 <|> t'.1) then
      match edit.corners? t.2 t'.2 with
      | some (a, b) => [.cell t.1 a, .colon, .cell t'.1 b]
      | none => [.error .ref]
    else [.cell t.1 t.2, .colon, .cell t'.1 t'.2]

variable (target : String) (onTarget : Bool)

theorem grows_place (edit : LineEdit) :
    Grows (edit.place target onTarget) (edit.follow target onTarget) := by
  refine ⟨fun n s a => ?_, fun n s a s' b hagree => ?_, fun t t' => ?_⟩
  · simp only [place, follow]
    split
    · split
      · exact .cell _ _
      · exact .error _
    · exact .cell _ _
  · have hsheet : (s <|> s') = s := by
      cases s with
      | some sheet => rfl
      | none =>
        cases s' with
        | none => rfl
        | some sheet' => cases hagree
    unfold place follow
    dsimp only
    rw [hsheet]
    split
    · split
      · exact .range (.cell s _) hagree
      · exact .tighter (.error _)
    · exact .range (.cell s a) hagree
  · have hnone : ∀ ks : List TokenKind, (∀ k ∈ ks, k.isOperator = false) → opCount ks = 0 :=
      fun ks h => List.countP_eq_zero.mpr fun k hk => Bool.eq_false_iff.mp (h k hk)
    have hcell : ∀ s a, (TokenKind.cell s a).isOperator = false := fun _ _ => rfl
    have hcolon : TokenKind.colon.isOperator = false := rfl
    have herror : ∀ e, (TokenKind.error e).isOperator = false := fun _ => rfl
    refine hnone _ ?_
    unfold place
    split <;> split <;> try split
    all_goals simp [hcell, hcolon, herror]

theorem sealed_place (edit : LineEdit) : Sealed (edit.place target onTarget) := by
  intro t t'
  unfold place
  split <;> split <;> (try split) <;> exact ⟨_, _, rfl, by simp, by simp⟩

/-- A reference is replaced by what the edit makes of its tokens. -/
theorem Fits.replaces (h : edit.Fits) :
    Replaces
      (fun site => if concerns target onTarget site then some (edit.renderSite site) else none)
      (edit.place target onTarget) := by
  intro site hsite
  obtain ⟨⟨mark, s, a⟩, second⟩ := site
  have hfirst := hsite.first
  cases second with
  | none =>
    have hconcerns : concerns target onTarget ⟨⟨mark, s, a⟩, none⟩ = means target onTarget s := by
      cases s <;> rfl
    dsimp only
    rw [hconcerns]
    cases hmeans : means target onTarget s with
    | false =>
      simp [place, Site.targets, Site.kinds, hmeans]
    | true =>
      simp only [if_true, place, Site.targets, Option.map_none, hmeans, renderSite]
      cases ha : edit.address? a with
      | none => exact .refError
      | some a' => exact hfirst.phrase (h.onGrid_address? hfirst.onGrid ha)
  | some second =>
    obtain ⟨mark', s', b⟩ := second
    have hsecond := hsite.second _ rfl
    have hconcerns : concerns target onTarget ⟨⟨mark, s, a⟩, some ⟨mark', s', b⟩⟩ =
        means target onTarget (s <|> s') := by
      cases s <;> cases s' <;> rfl
    dsimp only
    rw [hconcerns]
    cases hmeans : means target onTarget (s <|> s') with
    | false =>
      simp only [place, Site.targets, Site.kinds, Option.map_some, hmeans, Bool.false_eq_true,
        if_false]
    | true =>
      simp only [if_true, place, Site.targets, Option.map_some, hmeans, renderSite]
      cases hab : edit.corners? a b with
      | none => exact .refError
      | some moved =>
        obtain ⟨ha', hb'⟩ := h.onGrid_corners? hfirst.onGrid hsecond.onGrid hab
        exact hfirst.phrase_pair hsecond ha' hb'

end LineEdit

/-- **A formula that follows an insertion or deletion** is read as its tree with every reference to
    the edited sheet moved, or a reference error where nothing is left of it. -/
theorem parseFormula_followEdit (h : edit.Fits) (target : String) (onTarget : Bool)
    {formula : String} {e : Expr} (hread : parseFormula formula = ⟨some e, []⟩)
    (hplain : NoGroupCorner (kindsOf formula.toList)) :
    parseFormula (followEdit edit target onTarget formula) =
      ⟨some (e.mapReferences (edit.follow target onTarget)), []⟩ :=
  parseFormula_mapReferences (h.replaces target onTarget)
    (LineEdit.grows_place target onTarget edit) hread hplain

end Lines

end Gridcalc
