import Std.Data.ExtTreeMap
import Std.Data.ExtTreeSet

/-!
# The dependency graph

Which cells a formula reads, and which formulas read a cell. Both directions of every edge are
kept, so that each can be followed without a search.

* `CellKey` is a cell of the workbook, in the order of sheets, rows and columns;
* `Graph.addDependency`, `setPrecedents`, `removePrecedents` change the graph;
* `Graph.precedents` and `Graph.dependents` are the two views.
-/

namespace Gridcalc

/-! ## 1. Cells of a workbook -/

/-- A cell by the index of its sheet, its row and its column. -/
structure CellKey where
  sheet : Nat
  row : Nat
  col : Nat
  deriving DecidableEq, Repr, Inhabited

namespace CellKey

/-- By sheet, then by row, then by column. -/
def order : CellKey → CellKey → Ordering :=
  compareLex (compareOn sheet) (compareLex (compareOn row) (compareOn col))

instance : Ord CellKey := ⟨order⟩

instance : Std.TransOrd CellKey :=
  inferInstanceAs (Std.TransCmp
    (compareLex (compareOn sheet) (compareLex (compareOn row) (compareOn col))))

instance : Std.LawfulEqOrd CellKey where
  eq_of_compare {a b} h := by
    have h : order a b = .eq := h
    simp only [order, compareLex, compareOn, Ordering.then_eq_eq, Nat.compare_eq_eq] at h
    obtain ⟨hs, hr, hc⟩ := h
    cases a; cases b; simp_all

end CellKey

/-- A set of cells. -/
abbrev CellSet := Std.ExtTreeSet CellKey

/-- A set of cells for each of some cells. -/
abbrev EdgeMap := Std.ExtTreeMap CellKey CellSet

/-! ## 2. Edges in one direction -/

namespace EdgeMap

/-- The cells at the other end of the edges of a cell. -/
def targets (m : EdgeMap) (cell : CellKey) : CellSet := (m[cell]?).getD ∅

/-- One more edge. -/
def add (m : EdgeMap) (source target : CellKey) : EdgeMap :=
  m.insert source ((m.targets source).insert target)

/-- One edge less; a cell without edges is not kept. -/
def remove (m : EdgeMap) (source target : CellKey) : EdgeMap :=
  match m[source]? with
  | none => m
  | some set =>
    let set := set.erase target
    if set.isEmpty then m.erase source else m.insert source set

end EdgeMap

/-! ## 3. The graph -/

/-- The edges of a workbook in both directions. -/
structure Graph where
  /-- The cells that read a cell. -/
  readers : EdgeMap := ∅
  /-- The cells that a cell reads. -/
  sources : EdgeMap := ∅

namespace Graph

/-- The cells that `cell` reads. -/
def precedents (g : Graph) (cell : CellKey) : CellSet := EdgeMap.targets g.sources cell

/-- The cells that read `cell`. -/
def dependents (g : Graph) (cell : CellKey) : CellSet := EdgeMap.targets g.readers cell

/-- Notes that `dependent` reads `precedent`. -/
def addDependency (g : Graph) (precedent dependent : CellKey) : Graph :=
  { readers := EdgeMap.add g.readers precedent dependent
    sources := EdgeMap.add g.sources dependent precedent }

/-- Forgets everything that `cell` reads. -/
def removePrecedents (g : Graph) (cell : CellKey) : Graph :=
  { readers := (g.precedents cell).toList.foldl (fun m p => EdgeMap.remove m p cell) g.readers
    sources := g.sources.erase cell }

/-- Puts other cells in place of what `cell` reads; the cells that read `cell` stay. -/
def setPrecedents (g : Graph) (cell : CellKey) (precedents : List CellKey) : Graph :=
  precedents.foldl (fun g p => g.addDependency p cell) (g.removePrecedents cell)

/-- How many cells read another one. -/
def formulaCount (g : Graph) : Nat := g.sources.size

/-- Whether a cell reads itself. -/
def readsItself (g : Graph) (cell : CellKey) : Bool := (g.precedents cell).contains cell

end Graph

end Gridcalc
