import Gridcalc.Evaluation.Evaluate
import Mathlib.Data.List.Forall2

/-!
# Trees with a known value

What a call or an operator comes to where the values of its arguments or operands are known. The
value has to be there wherever in a formula the tree stands, so that it can be an argument itself.

* `Yields`: the tree comes to the value;
* `Yields.call`: **a function of single values is run on the values of its arguments**;
* `Yields.concat`: two texts one after the other.
-/

namespace Gridcalc

/-- The tree comes to the value, wherever it stands in a formula. -/
def Yields (ctx : Context) (e : Expr) (v : Value) : Prop :=
  ∀ path, evaluate { ctx with path } e = .ok v

section Trees

variable {ctx : Context} {e e' : Expr} {es : List Expr} {v : Value} {vs : List Value} {f : Builtin}
  {name : String}

theorem yields_number (ctx : Context) (x : Float) : Yields ctx (.number x) (.number x) :=
  fun _ => rfl

/-- The text of one tree, then that of the other. -/
theorem Yields.concat {s t : String} (h : Yields ctx e (.text s)) (h' : Yields ctx e' (.text t)) :
    Yields ctx (.binary .concat e e') (.text (s ++ t)) := by
  intro path
  have hleft : evaluate (Context.branch { ctx with path } 0) e = .ok (.text s) := h _
  have hright : evaluate (Context.branch { ctx with path } 1) e' = .ok (.text t) := h' _
  simp only [evaluate, hleft, hright]
  rfl

/-- A tree with a value that is no error is not a rectangle, so that the value is what a function
    gets. -/
theorem argOf_scalar (h : Yields ctx e v) (herror : v.isError = false) (path : List Nat) :
    argOf { ctx with path } .scalar e v = .value v := by
  cases e with
  | range sheet r =>
    have hvalue := Except.ok.inj (h path)
    unfold rangeAsScalar at hvalue
    split at hvalue <;> cases hvalue <;> cases herror
  | _ => rfl

theorem evaluateArgs_scalar (hkinds : f.kinds = [.scalar]) (h : List.Forall₂ (Yields ctx) es vs)
    (herrors : ∀ v ∈ vs, v.isError = false) (path : List Nat) (i : Nat) :
    evaluateArgs { ctx with path } f i es = .ok (vs.map .value) := by
  have hkind (i : Nat) : f.kindAt i = .scalar := by
    unfold Builtin.kindAt
    rw [hkinds]
    cases i <;> rfl
  induction h generalizing i with
  | nil => rfl
  | @cons e v es vs he hes ih =>
    have hhead : evaluate (Context.branch { ctx with path } i) e = .ok v := he _
    have htail := ih (fun w hw => herrors w (List.mem_cons_of_mem v hw)) (i + 1)
    simp only [evaluateArgs, hhead, htail, hkind]
    show Except.ok (argOf { ctx with path } .scalar e v :: vs.map .value) = _
    rw [argOf_scalar he (herrors v List.mem_cons_self)]
    rfl

/-- **A function of single values is run on the values of its arguments.** -/
theorem Yields.call {w : Value} (hfind : findBuiltin? name = some f) (hkinds : f.kinds = [.scalar])
    (haccepts : f.accepts es.length = true) (h : List.Forall₂ (Yields ctx) es vs)
    (herrors : ∀ v ∈ vs, v.isError = false)
    (hrun : ∀ path, (f.run (vs.map .value) { ctx with path }).settle = .ok w) :
    Yields ctx (.call name es) w := by
  intro path
  simp only [evaluate, hfind, if_pos haccepts, evaluateArgs_scalar hkinds h herrors]
  exact hrun path

end Trees

end Gridcalc
