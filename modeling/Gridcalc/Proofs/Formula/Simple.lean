import Gridcalc.Proofs.Formula.Following

/-!
# Formulas of operators alone

Formulas without calls and ranges: literals and references to single cells with operators between
them.

* `Expr.Simple`; such a formula has no functions (`functionNames_eq`), and stays simple with its
  references replaced;
* `parseFormula_followEdit_of_simple`: such a formula follows insertions and deletions, however it
  is written.
-/

namespace Gridcalc

/-! ## 1. Trees -/

namespace Expr

/-- Literals, references to single cells, and operators. -/
inductive Simple : Expr → Prop
  | number (x : Float) : Simple (.number x)
  | text (s : String) : Simple (.text s)
  | boolean (b : Bool) : Simple (.boolean b)
  | error (e : ErrorValue) : Simple (.error e)
  | cell (sheet : Option String) (address : CellRef) : Simple (.cell sheet address)
  | binary (op : Operator) {left right : Expr} (hleft : Simple left) (hright : Simple right) :
      Simple (.binary op left right)

variable {e : Expr}

/-- No function is called. -/
theorem Simple.functionNames_eq (h : e.Simple) : e.functionNames = [] := by
  induction h with
  | binary op _ _ ihl ihr => rw [functionNames, ihl, ihr, List.append_nil]
  | _ => rfl

/-- All references are to single cells. -/
theorem Simple.exists_cell_of_mem (h : e.Simple) {r : Reference} (hr : r ∈ e.references) :
    ∃ sheet a, r = .cell sheet a := by
  induction h with
  | cell sheet a => exact ⟨sheet, a, List.mem_singleton.mp hr⟩
  | binary op _ _ ihl ihr => exact (List.mem_append.mp hr).elim ihl ihr
  | _ => exact absurd hr List.not_mem_nil

/-- Other simple trees in place of the references make a simple tree. -/
theorem Simple.mapReferences {f : Reference → Expr} (hf : ∀ sheet a, (f (.cell sheet a)).Simple)
    (h : e.Simple) : (e.mapReferences f).Simple := by
  induction h with
  | cell sheet a => exact hf sheet a
  | binary op _ _ ihl ihr => exact .binary op ihl ihr
  | number x => exact .number x
  | text s => exact .text s
  | boolean b => exact .boolean b
  | error e => exact .error e

end Expr

/-! ## 2. Tokens -/

section Tokens

variable {n : Nat} {level : Level} {ks : List TokenKind} {e : Expr}

/-- Nothing but ranges is written with colons. -/
theorem Derives.colon_not_mem (h : Derives n level ks e) (hs : e.Simple) :
    TokenKind.colon ∉ ks := by
  induction h with
  | tighter _ ih => exact ih hs
  | binary hop _ _ ihl ihr =>
    obtain _ | _ | _ | _ | _ | ⟨_, hleft, hright⟩ := hs
    rw [List.mem_append, List.mem_cons]
    rintro (hmem | e | hmem)
    · exact ihl hleft hmem
    · exact (closes_of_operatorOf hop).2.1 e.symm
    · exact ihr hright hmem
  | group _ ih => simpa using ih hs
  | call _ ih => simpa using ih hs
  | range _ _ _ => cases hs
  | emptyCall _ => cases hs
  | firstArgument _ _ _ => cases hs
  | nextArgument _ _ _ _ => cases hs
  | _ => simp

end Tokens

/-! ## 3. Formulas -/

section Formulas

variable {formula : String} {e : Expr}

/-- **A formula of operators alone follows an insertion or deletion**, however it is written. -/
theorem parseFormula_followEdit_of_simple {edit : LineEdit} (h : edit.Fits) (target : String)
    (onTarget : Bool) (hread : parseFormula formula = ⟨some e, []⟩) (hs : e.Simple) :
    parseFormula (followEdit edit target onTarget formula) =
      ⟨some (e.mapReferences (edit.follow target onTarget)), []⟩ := by
  refine parseFormula_followEdit h target onTarget hread ?_
  obtain ⟨ks, hkinds, hderives, -⟩ := parseFormula_eq_iff.mp hread
  have hcolon : TokenKind.colon ∉ kindsOf formula.toList := by
    rw [hkinds, List.mem_cons, not_or]
    exact ⟨by simp, hderives.colon_not_mem hs⟩
  rw [NoGroupCorner, List.isChain_iff_forall_rel_of_append_cons_cons]
  rintro k k' front back hsplit - rfl
  rw [hsplit] at hcolon
  exact hcolon (by simp)

theorem LineEdit.simple_follow (edit : LineEdit) (target : String) (onTarget : Bool)
    (sheet : Option String) (a : CellRef) :
    (edit.follow target onTarget (.cell sheet a)).Simple := by
  simp only [follow]
  split
  · split
    · exact .cell _ _
    · exact .error _
  · exact .cell _ _

end Formulas

end Gridcalc
