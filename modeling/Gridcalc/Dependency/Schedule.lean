import Gridcalc.Dependency.Graph

/-!
# The order of evaluation

Cells are put into groups so that each group comes after the groups it reads. Cells that read each
other in a circle are one group.

* `finishOrder` walks along what cells read and lists them as they are left, so that a cell comes
  after all that it reads unless a circle leads back to it;
* `takeReachable` collects a group by walking back along the readers, from the cell left last;
* `Graph.schedule` is the order of groups.

Both walks start from the cells in their order and follow edges in that order, so the schedule
depends on the graph alone.
-/

namespace Gridcalc

/-- Cells to be evaluated together. -/
structure CalcGroup where
  cells : List CellKey
  /-- Whether they read each other, or the only one reads itself. -/
  cyclic : Bool
  deriving DecidableEq, Repr

/-- A step of the walk: to enter a cell, or to leave it after everything it reads. -/
inductive WalkStep where
  | enter (cell : CellKey)
  | leave (cell : CellKey)
  deriving DecidableEq, Repr

/-- Taking a cell out of a set makes it smaller. -/
theorem size_erase_lt {s : CellSet} {cell : CellKey} (h : cell ∈ s) :
    (s.erase cell).size < s.size := by
  have hne : s.size ≠ 0 := by
    intro h0
    have he : s = ∅ := by
      rw [← Std.ExtTreeSet.isEmpty_iff, Std.ExtTreeSet.isEmpty_eq_size_beq_zero]
      simp [h0]
    rw [he] at h
    exact Std.ExtTreeSet.not_mem_empty h
  have hc : s.contains cell = true := Std.ExtTreeSet.contains_iff_mem.mpr h
  rw [Std.ExtTreeSet.size_erase, if_pos hc]
  omega

/-- The cells of `unvisited` that the walk leaves, the last one first, in front of those it has
    left already. -/
def finishOrder (next : CellKey → List CellKey) (unvisited : CellSet) (left : List CellKey)
    (steps : List WalkStep) : List CellKey :=
  match steps with
  | [] => left
  | .leave cell :: steps => finishOrder next unvisited (cell :: left) steps
  | .enter cell :: steps =>
    if cell ∈ unvisited then
      finishOrder next (unvisited.erase cell) left
        ((next cell).map .enter ++ .leave cell :: steps)
    else finishOrder next unvisited left steps
termination_by (unvisited.size, steps.length)
decreasing_by
  · exact Prod.Lex.right _ (Nat.lt_succ_self _)
  · rename_i h
    exact Prod.Lex.left _ _ (size_erase_lt h)
  · exact Prod.Lex.right _ (Nat.lt_succ_self _)

/-- The cells of `free` that can be reached from those of `stack`, in front of `found`, and what is
    left of `free`. -/
def takeReachable (next : CellKey → List CellKey) (free : CellSet) (found : List CellKey)
    (stack : List CellKey) : List CellKey × CellSet :=
  match stack with
  | [] => (found, free)
  | cell :: stack =>
    if cell ∈ free then takeReachable next (free.erase cell) (cell :: found) (next cell ++ stack)
    else takeReachable next free found stack
termination_by (free.size, stack.length)
decreasing_by
  · rename_i h
    exact Prod.Lex.left _ _ (size_erase_lt h)
  · exact Prod.Lex.right _ (Nat.lt_succ_self _)

namespace Graph

/-- A group of cells found together, in order. -/
def groupOf (g : Graph) (found : List CellKey) : CalcGroup :=
  { cells := (Std.ExtTreeSet.ofList found).toList
    cyclic := match found with
      | [cell] => g.readsItself cell
      | _ => true }

/-- Groups the cells of `free`. Those left last come first, and each group goes in front of the ones
    found before it. -/
def collectGroups (g : Graph) (free : CellSet) (groups : List CalcGroup) :
    List CellKey → List CalcGroup
  | [] => groups
  | cell :: left =>
    if cell ∈ free then
      let (found, free) := takeReachable (fun c => (g.dependents c).toList) free [] [cell]
      collectGroups g free (g.groupOf found :: groups) left
    else collectGroups g free groups left

/-- The order in which to evaluate some cells. Cells outside of them are up to date. -/
def schedule (g : Graph) (cells : CellSet) : List CalcGroup :=
  let left := finishOrder (fun c => (g.precedents c).toList) cells [] (cells.toList.map .enter)
  g.collectGroups cells [] left

end Graph

end Gridcalc
