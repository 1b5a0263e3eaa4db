import Gridcalc.Proofs.Formula.Following
import Gridcalc.Proofs.Formula.SheetNames
import Gridcalc.Builtin.Summary

/-!
# Formulas that follow a renamed sheet

The name of a sheet is replaced in front of every address that stands on it.

* `Reference.mapSheet`, `Derives.mapSheet`: references and derivations with other names of sheets;
* `parseFormula_renameInFormula`: **the text with the name replaced is read as the tree with the
  name replaced**, wherever colons stand;
* `isSummaryFormula_renameInFormula`: a formula calls a summary as before.
-/

namespace Gridcalc

/-! ## 1. Other names of sheets -/

/-- What a reference on a sheet calls it after a renaming, ASCII case aside. -/
def renamedSheet (old new : String) : Option String → Option String
  | some name => if Text.sameIgnoringCase name old then some new else some name
  | none => none

/-- A reference with another name of its sheet. -/
def Reference.mapSheet (f : Option String → Option String) : Reference → Reference
  | .cell sheet a => .cell (f sheet) a
  | .range sheet r => .range (f sheet) r

/-- An address with another name of its sheet; other tokens stay. -/
def TokenKind.mapSheet (f : Option String → Option String) : TokenKind → TokenKind
  | .cell sheet a => .cell (f sheet) a
  | k => k

/-- A tree with other names of sheets in its references. -/
def Expr.mapSheets (f : Option String → Option String) (e : Expr) : Expr :=
  e.mapReferences fun r => (r.mapSheet f).toExpr

section Sheets

variable {f : Option String → Option String} {old new : String} {n : Nat} {level : Level}
  {ks : List TokenKind} {e : Expr}

@[simp] theorem Reference.sheet_mapSheet (f : Option String → Option String) (r : Reference) :
    (r.mapSheet f).sheet = f r.sheet := by
  cases r <;> rfl

@[simp] theorem Reference.area_mapSheet (f : Option String → Option String) (r : Reference) :
    (r.mapSheet f).area = r.area := by
  cases r <;> rfl

theorem Expr.mapSheets_cell (f : Option String → Option String) (sheet : Option String)
    (a : CellRef) : (Expr.cell sheet a).mapSheets f = .cell (f sheet) a :=
  rfl

theorem Expr.mapSheets_range (f : Option String → Option String) (sheet : Option String)
    (r : RangeRef) : (Expr.range sheet r).mapSheets f = .range (f sheet) r :=
  rfl

theorem Expr.mapSheets_binary (f : Option String → Option String) (op : Operator)
    (left right : Expr) : (Expr.binary op left right).mapSheets f =
      .binary op (left.mapSheets f) (right.mapSheets f) :=
  rfl

theorem Expr.mapSheets_call (f : Option String → Option String) (name : String)
    (args : List Expr) : (Expr.call name args).mapSheets f =
      .call name (args.map (Expr.mapSheets f)) :=
  mapReferences_call _ name args

theorem Expr.references_mapSheets (f : Option String → Option String) (e : Expr) :
    (e.mapSheets f).references = e.references.map (Reference.mapSheet f) := by
  have htree : ∀ r : Reference, r.toExpr.references = [r] := fun r => by cases r <;> rfl
  simp only [mapSheets, references_mapReferences, htree]
  exact List.map_eq_flatMap.symm

/-- Corners that agree are renamed alike. -/
theorem cornersAgree_renamedSheet (old new : String) {sheet sheet' : Option String}
    (h : cornersAgree sheet sheet' = true) :
    cornersAgree (renamedSheet old new sheet) (renamedSheet old new sheet') = true := by
  cases sheet' with
  | none => cases sheet <;> exact rfl
  | some s' =>
    cases sheet with
    | none => cases h
    | some s =>
      have hsame : Text.sameIgnoringCase s s' = true := h
      have hboth : Text.sameIgnoringCase s old = Text.sameIgnoringCase s' old := by
        refine Bool.eq_iff_iff.mpr ⟨fun hs => ?_, Text.sameIgnoringCase_trans hsame⟩
        exact Text.sameIgnoringCase_trans (Text.sameIgnoringCase_comm .. ▸ hsame) hs
      simp only [renamedSheet, hboth]
      split
      · exact Text.sameIgnoringCase_self new
      · exact hsame

theorem operatorOf_mapSheet (level : Level) (f : Option String → Option String) (k : TokenKind) :
    level.operatorOf (k.mapSheet f) = level.operatorOf k := by
  cases k <;> cases level <;> rfl

/-- **Tokens with other names of sheets derive the tree with them**, if corners that agree stay
    so. -/
theorem Derives.mapSheet (hf : ∀ {sheet sheet'}, cornersAgree sheet sheet' = true →
    cornersAgree (f sheet) (f sheet') = true) (h : Derives n level ks e) :
    Derives n level (ks.map (TokenKind.mapSheet f)) (e.mapSheets f) := by
  induction h with
  | tighter _ ih => exact .tighter ih
  | binary hop _ _ ihl ihr =>
    rw [List.map_append, List.map_cons]
    exact .binary ((operatorOf_mapSheet _ f _).trans hop) ihl ihr
  | range _ hagree ih =>
    rw [List.map_append]
    exact .range ih (hf hagree)
  | cell sheet address => exact .cell _ _
  | group _ ih =>
    rw [List.map_append, List.map_cons]
    exact .group ih
  | emptyCall name => exact .emptyCall name
  | firstArgument name _ ih => exact .firstArgument name ih
  | nextArgument _ _ ihcall ih =>
    rw [Expr.mapSheets_call] at ihcall ⊢
    rw [List.map_append, List.map_append]
    exact .nextArgument ihcall ih
  | call _ ih =>
    rw [List.map_append]
    exact .call ih
  | number x => exact .number x
  | text t => exact .text t
  | error e => exact .error e
  | boolean h => exact .boolean h

theorem opCount_mapSheet (f : Option String → Option String) (ks : List TokenKind) :
    opCount (ks.map (TokenKind.mapSheet f)) = opCount ks := by
  rw [opCount, opCount, List.countP_map]
  refine List.countP_congr fun k _ => ?_
  cases k <;> exact Iff.rfl

end Sheets

/-! ## 2. Renamed sheets in texts -/

section Texts

variable {old new formula : String} {e : Expr}

/-- The tokens of a reference with other names of sheets. -/
def sheetKinds (f : Option String → Option String) (t : Target) : Option Target → List TokenKind
  | none => [.cell (f t.1) t.2]
  | some t' => [.cell (f t.1) t.2, .colon, .cell (f t'.1) t'.2]

/-- Corner for corner, so that it does not matter how corners are paired. -/
theorem mapKinds_sheetKinds (f : Option String → Option String) (ks : List TokenKind) :
    mapKinds (sheetKinds f) ks = ks.map (TokenKind.mapSheet f) := by
  induction ks using mapKinds.induct with
  | case1 s a s' b ks ih => simp [mapKinds, sheetKinds, TokenKind.mapSheet, ih]
  | case2 s a ks hno ih => simp [mapKinds_single hno, sheetKinds, TokenKind.mapSheet, ih]
  | case3 k ks hpair hcell ih =>
    have hother : k.mapSheet f = k := by
      cases k <;> first | rfl | exact absurd rfl (hcell _ _)
    rw [mapKinds_other fun s a hk => hcell s a hk, List.map_cons, hother, ih]
  | case4 => rfl

/-- A corner that has followed a renaming. -/
def Corner.follow (old new : String) (c : Corner) : Corner :=
  if c.names old then ⟨sheetPrefix new, some new, c.address⟩ else c

theorem Corner.render_follow (old new : String) (c : Corner) :
    (c.follow old new).render c.address = c.renamed old new := by
  unfold follow renamed
  split <;> rfl

theorem Corner.sheet_follow (old new : String) (c : Corner) :
    (c.follow old new).sheet = renamedSheet old new c.sheet := by
  obtain ⟨mark, sheet, address⟩ := c
  cases sheet with
  | none => rfl
  | some name => exact apply_ite Corner.sheet _ _ _

theorem Corner.Proper.follow {c : Corner} (h : c.Proper) (hnew : Prefixes new) (old : String) :
    (c.follow old new).Proper := by
  unfold Corner.follow
  split
  · exact hnew.proper h.onGrid
  · exact h

theorem Corner.renamedSheet_of_not_names {c : Corner} (h : c.names old = false) :
    renamedSheet old new c.sheet = c.sheet := by
  obtain ⟨mark, sheet, address⟩ := c
  cases sheet with
  | none => rfl
  | some name => exact if_neg (Bool.eq_false_iff.mp h)

/-- A reference is replaced by its tokens with the new name. -/
theorem replaces_renamed (hnew : Prefixes new) (old : String) :
    Replaces
      (fun site =>
        if site.first.names old || (site.second.map (Corner.names old)).getD false then
          some (site.renderWith (Corner.renamed old new))
        else none)
      (sheetKinds (renamedSheet old new)) := by
  intro site hsite
  obtain ⟨first, second⟩ := site
  have hfirst := hsite.first
  cases second with
  | none =>
    cases hnames : first.names old with
    | false =>
      simp [hnames, sheetKinds, Site.targets, Site.kinds, Corner.renamedSheet_of_not_names hnames]
    | true =>
      have hphrase := (hfirst.follow hnew old).phrase hfirst.onGrid
      rw [Corner.render_follow, Corner.sheet_follow] at hphrase
      simpa [hnames, Site.renderWith, sheetKinds, Site.targets] using hphrase
  | some second =>
    have hsecond := hsite.second _ rfl
    cases hnames : first.names old || second.names old with
    | false =>
      obtain ⟨hname, hname'⟩ := Bool.or_eq_false_iff.mp hnames
      simp [hname, hname', sheetKinds, Site.targets, Site.kinds,
        Corner.renamedSheet_of_not_names hname, Corner.renamedSheet_of_not_names hname']
    | true =>
      have hphrase := (hfirst.follow hnew old).phrase_pair
        (hsecond.follow hnew old) hfirst.onGrid hsecond.onGrid
      rw [Corner.render_follow, Corner.render_follow, Corner.sheet_follow,
        Corner.sheet_follow] at hphrase
      simpa [hnames, Site.renderWith, sheetKinds, Site.targets] using hphrase

variable (hnew : Prefixes new) (hread : parseFormula formula = ⟨some e, []⟩)

include hnew hread

theorem kindsOf_renameInFormula (old : String) :
    kindsOf (renameInFormula old new formula).toList =
      (kindsOf formula.toList).map (TokenKind.mapSheet (renamedSheet old new)) := by
  rw [← mapKinds_sheetKinds]
  exact kindsOf_mapReferences (replaces_renamed hnew old) hread

/-- **A formula that follows a renamed sheet** is read as its tree with the new name in place of the
    old one. -/
theorem parseFormula_renameInFormula (old : String) :
    parseFormula (renameInFormula old new formula) =
      ⟨some (e.mapSheets (renamedSheet old new)), []⟩ := by
  obtain ⟨ks, hkinds, hderives, hcount⟩ := parseFormula_eq_iff.mp hread
  have hmapped := kindsOf_renameInFormula hnew hread old
  rw [hkinds, List.map_cons] at hmapped
  refine parseFormula_eq_iff.mpr
    ⟨_, hmapped, hderives.mapSheet (cornersAgree_renamedSheet old new), ?_⟩
  rw [opCount_mapSheet]
  exact hcount

/-- A formula calls a summary exactly if it has done so before. -/
theorem isSummaryFormula_renameInFormula (old : String) :
    Builtin.isSummaryFormula (renameInFormula old new formula) =
      Builtin.isSummaryFormula formula := by
  let f := TokenKind.mapSheet (renamedSheet old new)
  have hkinds : (tokenize (renameInFormula old new formula)).map Token.kind =
      ((tokenize formula).map Token.kind).map f := by
    rw [kinds_tokenize, kinds_tokenize, kindsOf_renameInFormula hnew hread, List.map_append]
    rfl
  unfold Builtin.isSummaryFormula
  dsimp only
  rw [hkinds, ← List.map_tail, List.zip_map, List.any_map]
  congr 1
  funext ⟨k, k'⟩
  cases k <;> cases k' <;> rfl

end Texts

end Gridcalc
