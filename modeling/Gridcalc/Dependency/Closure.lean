import Gridcalc.Dependency.Graph

/-!
# Cells downstream of a change

* `EdgeMap.closeOver` collects everything that can be reached along the edges of a map;
* `Graph.dirtyClosure` are some cells with everything that reads them, directly or not.

The collection ends because each cell is followed once, and a cell that is not a key of the map has
nowhere to go.
-/

namespace Gridcalc

namespace EdgeMap

/-- How many keys of a map are still outside of a set. -/
def keysOutside (m : EdgeMap) (seen : CellSet) : Nat :=
  m.keys.countP fun k => decide (k ∉ seen)

theorem keysOutside_insert_le (m : EdgeMap) (seen : CellSet) (cell : CellKey) :
    keysOutside m (seen.insert cell) ≤ keysOutside m seen := by
  refine List.countP_mono_left fun k _ h => ?_
  simp only [decide_eq_true_eq, Std.ExtTreeSet.mem_insert, not_or] at h ⊢
  exact h.2

theorem keysOutside_insert_lt {m : EdgeMap} {seen : CellSet} {cell : CellKey} (hm : cell ∈ m)
    (hs : cell ∉ seen) : keysOutside m (seen.insert cell) < keysOutside m seen := by
  have key : ∀ l : List CellKey, cell ∈ l →
      l.countP (fun k => decide (k ∉ seen.insert cell)) < l.countP fun k => decide (k ∉ seen) := by
    intro l hl
    induction l with
    | nil => simp at hl
    | cons k l ih =>
      have hle : l.countP (fun k => decide (k ∉ seen.insert cell)) ≤
          l.countP fun k => decide (k ∉ seen) := by
        refine List.countP_mono_left fun k _ h => ?_
        simp only [decide_eq_true_eq, Std.ExtTreeSet.mem_insert, not_or] at h ⊢
        exact h.2
      by_cases hk : k = cell
      · subst hk
        have h1 : decide (k ∉ seen.insert k) = false := by simp
        have h2 : decide (k ∉ seen) = true := by simpa using hs
        simp only [List.countP_cons, h1, h2, if_true]
        simp only [Bool.false_eq_true, if_false]
        omega
      · have hl' : cell ∈ l := by
          rcases List.mem_cons.mp hl with h | h
          · exact absurd h.symm hk
          · exact h
        have hlt := ih hl'
        have hiff : (k ∉ seen.insert cell) ↔ k ∉ seen := by
          simp only [Std.ExtTreeSet.mem_insert, Std.compare_eq_iff_eq, not_or]
          exact ⟨fun h => h.2, fun h => ⟨fun e => hk e.symm, h⟩⟩
        simp only [List.countP_cons, hiff]
        omega
  exact key m.keys (Std.ExtTreeMap.mem_keys.mpr hm)

/-- Everything that can be reached from the cells of `stack` without passing through `seen`, added
    to `seen`. -/
def closeOver (m : EdgeMap) (seen : CellSet) (stack : List CellKey) : CellSet :=
  match stack with
  | [] => seen
  | cell :: stack =>
    if cell ∈ seen then closeOver m seen stack
    else closeOver m (seen.insert cell) ((targets m cell).toList ++ stack)
termination_by (keysOutside m seen, stack.length)
decreasing_by
  · exact Prod.Lex.right _ (Nat.lt_succ_self _)
  · rename_i hs
    by_cases hm : cell ∈ m
    · exact Prod.Lex.left _ _ (keysOutside_insert_lt hm hs)
    · have he : targets m cell = ∅ := by
        simp [targets, Std.ExtTreeMap.getElem?_eq_none hm]
      have hl : ((targets m cell).toList ++ stack).length = stack.length := by simp [he]
      rcases Nat.lt_or_eq_of_le (keysOutside_insert_le m seen cell) with h | h
      · exact Prod.Lex.left _ _ h
      · rw [h, hl]
        exact Prod.Lex.right _ (Nat.lt_succ_self _)

end EdgeMap

/-- Some cells and everything that reads them, directly or through others. -/
def Graph.dirtyClosure (g : Graph) (seeds : List CellKey) : CellSet :=
  EdgeMap.closeOver g.readers ∅ seeds

end Gridcalc
