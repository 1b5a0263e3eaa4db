import Gridcalc.Evaluation.Evaluate
import Gridcalc.Proofs.Builtin.Locality

/-!
# Cells that no reference means

A conditional function with a third argument stretches it to the shape of the first one, so that it
can look at cells that neither of its references means.

* `Expr.calls`, `Expr.reference?`: the calls of a formula, and the reference that an argument is;
* `Expr.beside`: the cells of the stretched rectangles of a formula;
* `Expr.Tracked`: a formula that is not evaluated anew each time, and whose stretched rectangles lie
  within what it is known to read; `Expr.tracked_of_calls` says that a formula without such calls is
  one.
-/

namespace Gridcalc

/-! ## 1. Calls -/

namespace Expr

mutual

/-- The calls of a formula with their arguments. -/
def calls : Expr → List (String × List Expr)
  | .binary _ left right => calls left ++ calls right
  | .call name args => (name, args) :: callsOfArgs args
  | _ => []

/-- The calls in the arguments of a call. -/
def callsOfArgs : List Expr → List (String × List Expr)
  | [] => []
  | e :: es => calls e ++ callsOfArgs es

end

/-- The reference that a formula is. -/
def reference? : Expr → Option Reference
  | .cell sheet r => some (.cell sheet r)
  | .range sheet r => some (.range sheet r)
  | _ => none

end Expr

/-- Whether the function with a name stretches its third argument. -/
def isStretchingName (name : String) : Bool := (findBuiltin? name).any Builtin.stretches

theorem mem_builtins_of_find {name : String} {f : Builtin} (h : findBuiltin? name = some f) :
    f ∈ builtins := by
  unfold findBuiltin? at h
  exact List.mem_of_find?_eq_some h

/-! ## 2. Stretched rectangles -/

namespace Reference

/-- Whether a reference means a rectangle that lies in its sheet. -/
def isInside (sheets : List Worksheet) (home : Nat) (r : Reference) : Bool :=
  ((sheetOfReference? sheets home r.sheet).bind fun i => sheets[i]?).any
    fun ws => ws.containsRange r.area

/-- A reference stretched to the shape of another one. -/
def stretchedTo (summed tested : Reference) : Reference :=
  .range summed.sheet (Builtin.besideRange tested.area summed.area)

end Reference

/-- The cells of the rectangle that a call stretches its third argument to, as far as there are
    any. -/
def besideOfCall (sheets : List Worksheet) (home : Nat) (name : String) (args : List Expr) :
    List CellKey :=
  match (args[0]?).bind Expr.reference?, (args[2]?).bind Expr.reference? with
  | some tested, some summed =>
    if isStretchingName name && args.length == 3 && tested.isInside sheets home &&
        summed.isInside sheets home then
      (summed.stretchedTo tested).precedents sheets home
    else []
  | _, _ => []

namespace Expr

/-- The cells of all stretched rectangles of a formula on sheet `home`. -/
def beside (sheets : List Worksheet) (home : Nat) (e : Expr) : List CellKey :=
  e.calls.flatMap fun (name, args) => besideOfCall sheets home name args

/-- A formula of which it is known what it reads: it is not evaluated anew each time, and its
    stretched rectangles hold no cell but those that its references mean. -/
def Tracked (sheets : List Worksheet) (home : Nat) (e : Expr) : Prop :=
  e.isVolatile = false ∧ ∀ key ∈ e.beside sheets home, key ∈ precedentsOf sheets home e

end Expr

/-! ## 3. Frames -/

section Frames

variable {sheets sheets' : List Worksheet}

theorem Reference.isInside_map_frame (sheets : List Worksheet) (home : Nat) (r : Reference) :
    r.isInside (sheets.map Worksheet.frame) home = r.isInside sheets home := by
  unfold Reference.isInside
  rw [sheetOfReference?_map outline_frame]
  cases sheetOfReference? sheets home r.sheet with
  | none => rfl
  | some i =>
    simp only [Option.bind_some, List.getElem?_map]
    cases sheets[i]? <;> rfl

theorem besideOfCall_map_frame (sheets : List Worksheet) (home : Nat) (name : String)
    (args : List Expr) :
    besideOfCall (sheets.map Worksheet.frame) home name args =
      besideOfCall sheets home name args := by
  unfold besideOfCall
  simp only [Reference.isInside_map_frame, Reference.precedents_map outline_frame]

theorem SameFrames.beside_eq (h : SameFrames sheets sheets') (home : Nat) (e : Expr) :
    e.beside sheets home = e.beside sheets' home := by
  have hframe : ∀ sheets : List Worksheet,
      e.beside (sheets.map Worksheet.frame) home = e.beside sheets home := by
    intro sheets
    simp only [Expr.beside, besideOfCall_map_frame]
  rw [← hframe sheets, h, hframe]

/-- What is known of a formula is a matter of the frames alone. -/
theorem SameFrames.tracked_iff (h : SameFrames sheets sheets') (home : Nat) (e : Expr) :
    e.Tracked sheets home ↔ e.Tracked sheets' home := by
  unfold Expr.Tracked
  rw [h.beside_eq, h.precedentsOf_eq]

end Frames

/-- Without calls that stretch a third argument there is nothing beside. -/
theorem Expr.tracked_of_calls {sheets : List Worksheet} {home : Nat} {e : Expr}
    (hv : e.isVolatile = false)
    (hc : ∀ c ∈ e.calls, isStretchingName c.1 = true → c.2.length ≠ 3) : e.Tracked sheets home := by
  refine ⟨hv, fun key hkey => ?_⟩
  obtain ⟨⟨name, args⟩, hmem, hkey⟩ := List.mem_flatMap.mp hkey
  dsimp only at hkey
  unfold besideOfCall at hkey
  split at hkey
  · split at hkey
    · rename_i hcond
      simp only [Bool.and_eq_true, beq_iff_eq] at hcond
      exact absurd hcond.1.1.2 (hc _ hmem hcond.1.1.1)
    · cases hkey
  · cases hkey

end Gridcalc
