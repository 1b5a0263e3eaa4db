import Gridcalc.Formula.Expr
import Mathlib.Data.List.Basic

/-!
# Trees with references replaced

* `Expr.mapReferences`: a tree with other trees in place of its references;
* `mapReferences_mapReferences`, `mapReferences_congr`, `mapReferences_eq_self`: replacing twice,
  replacing alike, and replacing every reference by itself;
* `references_mapReferences`: what a tree refers to afterwards.
-/

namespace Gridcalc

/-- The tree of a reference. -/
def Reference.toExpr : Reference → Expr
  | .cell sheet r => .cell sheet r
  | .range sheet r => .range sheet r

/-- The addresses of a reference as they are written, one for a cell and two for a range. -/
def Reference.corners : Reference → List CellRef
  | .cell _ address => [address]
  | .range _ r => [r.start, r.stop]

namespace Expr

/-! ## 1. Replaced references -/

mutual

/-- A tree with other trees in place of its references. -/
def mapReferences (f : Reference → Expr) : Expr → Expr
  | .cell sheet address => f (.cell sheet address)
  | .range sheet r => f (.range sheet r)
  | .binary op left right => .binary op (mapReferences f left) (mapReferences f right)
  | .call name args => .call name (mapReferencesOfArgs f args)
  | e => e

/-- The arguments of a call with other trees in place of their references. -/
def mapReferencesOfArgs (f : Reference → Expr) : List Expr → List Expr
  | [] => []
  | e :: es => mapReferences f e :: mapReferencesOfArgs f es

end

theorem mapReferencesOfArgs_eq (f : Reference → Expr) (args : List Expr) :
    mapReferencesOfArgs f args = args.map (mapReferences f) := by
  induction args with
  | nil => rfl
  | cons e es ih => rw [mapReferencesOfArgs, ih, List.map_cons]

theorem mapReferences_call (f : Reference → Expr) (name : String) (args : List Expr) :
    mapReferences f (.call name args) = .call name (args.map (mapReferences f)) := by
  rw [mapReferences, mapReferencesOfArgs_eq]

theorem references_call (name : String) (args : List Expr) :
    (Expr.call name args).references = args.flatMap references := by
  rw [references, referencesOfArgs_eq]

/-! ## 2. Laws -/

/-- Induction on a tree, with all arguments of a call at once. -/
@[elab_as_elim]
theorem treeInduction {motive : Expr → Prop} (number : ∀ x, motive (.number x))
    (text : ∀ s, motive (.text s)) (boolean : ∀ b, motive (.boolean b))
    (error : ∀ e, motive (.error e)) (cell : ∀ sheet a, motive (.cell sheet a))
    (range : ∀ sheet r, motive (.range sheet r))
    (binary : ∀ op left right, motive left → motive right → motive (.binary op left right))
    (call : ∀ name args, (∀ e ∈ args, motive e) → motive (.call name args)) (e : Expr) :
    motive e :=
  @Expr.rec motive (fun args => ∀ e ∈ args, motive e) number text boolean error cell range binary
    call (fun _ h => absurd h List.not_mem_nil)
    (fun _ _ hhead htail => List.forall_mem_cons.mpr ⟨hhead, htail⟩) e

variable {f g : Reference → Expr} {e : Expr}

/-- Replacing references, and then the references of what stands there. -/
theorem mapReferences_mapReferences (f g : Reference → Expr) (e : Expr) :
    (e.mapReferences f).mapReferences g = e.mapReferences fun r => (f r).mapReferences g := by
  induction e using treeInduction with
  | binary op left right hleft hright => simp only [mapReferences, hleft, hright]
  | call name args h =>
    rw [mapReferences_call, mapReferences_call, mapReferences_call, List.map_map]
    exact congrArg _ (List.map_congr_left h)
  | _ => rfl

/-- Only the references of the tree are replaced. -/
theorem mapReferences_congr (h : ∀ r ∈ e.references, f r = g r) :
    e.mapReferences f = e.mapReferences g := by
  induction e using treeInduction with
  | cell sheet a => exact h _ List.mem_cons_self
  | range sheet r => exact h _ List.mem_cons_self
  | binary op left right hleft hright =>
    rw [mapReferences, mapReferences, hleft fun r hr => h r (List.mem_append_left _ hr),
      hright fun r hr => h r (List.mem_append_right _ hr)]
  | call name args ih =>
    rw [references_call] at h
    rw [mapReferences_call, mapReferences_call]
    refine congrArg _ (List.map_congr_left fun e he => ih e he fun r hr => ?_)
    exact h r (List.mem_flatMap_of_mem he hr)
  | _ => rfl

/-- Every reference in its own place. -/
theorem mapReferences_eq_self (h : ∀ r ∈ e.references, f r = r.toExpr) :
    e.mapReferences f = e := by
  rw [mapReferences_congr h]
  induction e using treeInduction with
  | binary op left right hleft hright =>
    rw [mapReferences, hleft fun r hr => h r (List.mem_append_left _ hr),
      hright fun r hr => h r (List.mem_append_right _ hr)]
  | call name args ih =>
    rw [references_call] at h
    rw [mapReferences_call]
    refine congrArg _ ((List.map_congr_left fun e he => ih e he fun r hr => ?_).trans
      (List.map_id' args))
    exact h r (List.mem_flatMap_of_mem he hr)
  | _ => rfl

/-- A tree refers to what stands in place of its references. -/
theorem references_mapReferences (f : Reference → Expr) (e : Expr) :
    (e.mapReferences f).references = e.references.flatMap fun r => (f r).references := by
  induction e using treeInduction with
  | cell sheet a => exact (List.flatMap_singleton _ _).symm
  | range sheet r => exact (List.flatMap_singleton _ _).symm
  | binary op left right hleft hright =>
    rw [mapReferences, references, references, List.flatMap_append, hleft, hright]
  | call name args ih =>
    rw [mapReferences_call, references_call, references_call, List.flatMap_map,
      List.flatMap_assoc]
    exact List.flatMap_congr ih
  | _ => rfl

end Expr

end Gridcalc
