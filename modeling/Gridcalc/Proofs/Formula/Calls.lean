import Gridcalc.Builtin.Summary
import Gridcalc.Proofs.Address.Codec
import Gridcalc.Proofs.Formula.Recognised
import Mathlib

/-!
# Calls in the text of a formula

A name in front of a parenthesis is a call. In a formula of the language these names are just the
functions that its tree calls, so that calls can be looked for in the tokens.

* `calledNames`: the names in front of parentheses;
* `Derives.calledNames_eq`: **they are the functions of the tree**, in order;
* `calls_of_isSummaryFormula`: so a formula that is taken for a summary calls one.
-/

namespace Gridcalc

/-! ## 1. Names in front of parentheses -/

/-- The names in front of parentheses, as trees hold them. -/
def calledNames : List TokenKind → List String
  | [] => []
  | .name s :: .openParen :: ks => capitals s :: calledNames ks
  | _ :: ks => calledNames ks

section Tokens

variable {n : Nat} {level : Level} {k : TokenKind} {ks ks' : List TokenKind} {e : Expr}

theorem calledNames_cons (hname : ∀ s, k ≠ .name s) (ks : List TokenKind) :
    calledNames (k :: ks) = calledNames ks := by
  cases k <;> first | rfl | exact absurd rfl (hname _)

/-- No call goes over a token that is neither a name nor a parenthesis. -/
theorem calledNames_append_cons (hname : ∀ s, k ≠ .name s) (hopen : k ≠ .openParen)
    (ks ks' : List TokenKind) :
    calledNames (ks ++ k :: ks') = calledNames ks ++ calledNames ks' := by
  fun_induction calledNames ks with
  | case1 => exact calledNames_cons hname ks'
  | case2 s ks ih => exact congrArg (capitals s :: ·) ih
  | case3 k₁ ks hcall ih =>
    rw [← ih]
    cases ks with
    | nil =>
      show calledNames (k₁ :: k :: ks') = calledNames (k :: ks')
      rw [calledNames]
      rintro s rest rfl heq
      exact hopen (List.cons.inj heq).1
    | cons k₂ ks =>
      show calledNames (k₁ :: k₂ :: (ks ++ k :: ks')) = calledNames (k₂ :: (ks ++ k :: ks'))
      rw [calledNames]
      rintro s rest rfl heq
      obtain ⟨rfl, rfl⟩ := List.cons.inj heq
      exact hcall s ks rfl rfl

theorem ne_name_of_operatorOf {op : Operator} (h : level.operatorOf k = some op) :
    (∀ s, k ≠ .name s) ∧ k ≠ .openParen := by
  constructor
  · rintro s rfl
    cases level <;> cases h
  · rintro rfl
    cases level <;> cases h

/-- **The names in front of parentheses are the functions that the tree calls.** -/
theorem Derives.calledNames_eq (h : Derives n level ks e) : calledNames ks = e.functionNames := by
  induction h with
  | tighter _ ih => exact ih
  | binary hop _ _ ihl ihr =>
    obtain ⟨hname, hopen⟩ := ne_name_of_operatorOf hop
    rw [calledNames_append_cons hname hopen, ihl, ihr, Expr.functionNames]
  | range _ _ ih =>
    rw [calledNames_append_cons (k := .colon) nofun nofun, ih]
    rfl
  | group _ ih =>
    rw [List.cons_append, calledNames_cons (k := .openParen) nofun,
      calledNames_append_cons (k := .closeParen) nofun nofun, ih]
    exact List.append_nil _
  | firstArgument name _ ih =>
    rw [calledNames, ih, Expr.functionNames, Expr.functionNamesOfArgs_eq, List.flatMap_singleton]
  | nextArgument _ _ ihcall ih =>
    rw [calledNames_append_cons (k := .comma) nofun nofun, ihcall, ih, Expr.functionNames,
      Expr.functionNames, Expr.functionNamesOfArgs_eq, Expr.functionNamesOfArgs_eq,
      List.flatMap_append, List.flatMap_singleton, List.cons_append]
  | call _ ih =>
    rw [calledNames_append_cons (k := .closeParen) nofun nofun, ih]
    exact List.append_nil _
  | _ => rfl

/-- Two tokens side by side that are taken for a call are one. -/
theorem exists_called {p : String → Bool}
    (h : ((ks.zip ks.tail).any fun
      | (.name s, .openParen) => p s
      | _ => false) = true) : ∃ s, capitals s ∈ calledNames ks ∧ p s = true := by
  fun_induction calledNames ks with
  | case1 => cases h
  | case2 s ks ih =>
    simp only [List.tail_cons, List.zip_cons_cons, List.any_cons, Bool.or_eq_true] at h
    rcases h with h | h
    · exact ⟨s, List.mem_cons_self, h⟩
    · cases ks with
      | nil => cases h
      | cons k ks =>
        simp only [List.zip_cons_cons, List.any_cons, Bool.or_eq_true] at h
        obtain ⟨s', hs', hp⟩ := ih (by simpa using h)
        exact ⟨s', List.mem_cons_of_mem _ hs', hp⟩
  | case3 k ks hcall ih =>
    cases ks with
    | nil => cases h
    | cons k' ks =>
      simp only [List.tail_cons, List.zip_cons_cons, List.any_cons, Bool.or_eq_true] at h
      refine ih (h.resolve_left fun hpair => ?_)
      split at hpair
      · rename_i heq
        cases heq
        exact hcall _ _ rfl rfl
      · cases hpair

end Tokens

/-! ## 2. Names up to case -/

section Names

variable {c d : Char} {s t : String}

theorem toLower_of_not_ascii (h : ¬c.toNat < 128) : c.toLower = c := by
  refine Char.toLower_eq_of_not_isUpper fun hupper => ?_
  exact h (ascii_of_isAlpha (isAlpha_of_isUpper hupper))

/-- A character whose small letter is that of a capital in ASCII has that capital. -/
theorem capital_of_toLower_eq (hd : d.isUpper = true) (h : c.toLower = d.toLower) :
    Text.capital c = [d] := by
  have hsmall : d.toLower.toNat < 128 :=
    forall_ascii (P := fun d => d.toLower.toNat < 128) (by decide)
      (ascii_of_isAlpha (isAlpha_of_isUpper hd))
  have hascii : c.toNat < 128 := by
    by_contra hlarge
    rw [← h, toLower_of_not_ascii hlarge] at hsmall
    exact hlarge hsmall
  have hcapital : c.toUpper = d := by
    rw [← Char.toUpper_toLower_eq_toUpper, h, Char.toUpper_toLower_eq_toUpper,
      toUpper_of_isUpper hd]
  rw [Text.capital, if_pos hascii, hcapital]

theorem uppercase_of_toLower_eq {cs ds : List Char} (hds : ∀ d ∈ ds, d.isUpper = true)
    (h : cs.map Char.toLower = ds.map Char.toLower) : Text.uppercase cs = ds := by
  induction cs generalizing ds with
  | nil => exact (List.map_eq_nil_iff.mp h.symm).symm
  | cons c cs ih =>
    obtain ⟨d, ds, rfl, hd, hrest⟩ := List.map_eq_cons_iff.mp h.symm
    obtain ⟨hupper, hds⟩ := List.forall_mem_cons.mp hds
    rw [Text.uppercase, List.flatMap_cons, capital_of_toLower_eq hupper hd.symm,
      ← Text.uppercase, ih hds hrest.symm]
    rfl

theorem capitals_of_sameIgnoringCase (ht : t.toList.all Char.isUpper = true)
    (h : Text.sameIgnoringCase s t = true) : capitals s = t := by
  rw [capitals, uppercase_of_toLower_eq (List.all_eq_true.mp ht) (beq_iff_eq.mp h),
    String.ofList_toList]

end Names

/-- **A formula of the language that is taken for a summary calls one.** -/
theorem calls_of_isSummaryFormula {formula : String} {e : Expr}
    (hread : parseFormula formula = ⟨some e, []⟩)
    (h : Builtin.isSummaryFormula formula = true) :
    "SUBTOTAL" ∈ e.functionNames ∨ "AGGREGATE" ∈ e.functionNames := by
  obtain ⟨ks, hkinds, hderives, -⟩ := parseFormula_eq_iff.mp hread
  obtain ⟨s, hs, hname⟩ := exists_called h
  have hnames : calledNames ((tokenize formula).map Token.kind) = e.functionNames := by
    rw [kinds_tokenize, hkinds, List.cons_append, calledNames_cons (k := .equals) nofun,
      calledNames_append_cons (k := .finish) nofun nofun, hderives.calledNames_eq]
    exact List.append_nil _
  rw [hnames] at hs
  rw [Bool.or_eq_true] at hname
  rcases hname with hname | hname
  · exact .inl (capitals_of_sameIgnoringCase (by decide) hname ▸ hs)
  · exact .inr (capitals_of_sameIgnoringCase (by decide) hname ▸ hs)

end Gridcalc
