import Gridcalc.Dependency.Graph
import Gridcalc.Evaluation.Context
import Gridcalc.Formula.Expr

/-!
# What a formula reads

The cells that the references of a formula mean. A rectangle is cut at the edge of its sheet, and
references to sheets that do not exist mean nothing: they come to reference errors anyway.

* `precedentsOf` lists the cells of all references from left to right.
-/

namespace Gridcalc

/-- The cells of a rectangle that lie in a grid of a given size, row by row. -/
def RangeRef.clippedTo (r : RangeRef) (rowCount colCount : Nat) : List (Nat × Nat) :=
  let rows := List.range' r.firstRow (min (r.lastRow + 1) rowCount - r.firstRow)
  let cols := List.range' r.firstCol (min (r.lastCol + 1) colCount - r.firstCol)
  rows.flatMap fun row => cols.map fun col => (row, col)

/-- The cells of a reference in a formula on sheet `home`. -/
def Reference.precedents (sheets : List Worksheet) (home : Nat) (r : Reference) : List CellKey :=
  match sheetOfReference? sheets home r.sheet with
  | none => []
  | some sheet =>
    match sheets[sheet]? with
    | none => []
    | some ws =>
      (r.area.clippedTo ws.rowCount ws.colCount).map fun (row, col) => ⟨sheet, row, col⟩

/-- The cells that a formula on sheet `home` reads. -/
def precedentsOf (sheets : List Worksheet) (home : Nat) (e : Expr) : List CellKey :=
  e.references.flatMap (Reference.precedents sheets home)

end Gridcalc
