import Gridcalc.Number.Decimal

/-!
# Cell addresses

References to cells and to rectangles of cells, and how they are written: column letters and a row
number, each with a dollar sign in front when it is fixed.

* `CellRef` and `RangeRef` with their texts `CellRef.text` and `RangeRef.text`;
* `RangeRef.contains`: the rectangle between the corners;
* `RangeRef.Cursor`, `RangeRef.walk`, `RangeRef.cells`: its cells, row by row;
* `columnLetters`: the letters of a column.
-/

namespace Gridcalc

/-! ## 1. The grid -/

/-- The most rows a sheet can have. -/
def maxRows : Nat := 1048576

/-- The most columns a sheet can have. -/
def maxColumns : Nat := 16384

/-! ## 2. Column letters -/

/-- The letters of a column counted from one, last letter first: digits to the base 26 that run
    from one to 26. -/
def lettersBackwards (n : Nat) : List Char :=
  if n = 0 then []
  else Char.ofNat ('A'.toNat + (n - 1) % 26) :: lettersBackwards ((n - 1) / 26)
termination_by n
decreasing_by omega

/-- The letters of a column counted from zero: A to Z, AA to ZZ, AAA and so on. -/
def columnLetters (column : Nat) : List Char := (lettersBackwards (column + 1)).reverse

/-! ## 3. References to cells -/

/-- A reference to a cell, rows and columns counted from zero. A fixed row or column stays as it is
    when the formula moves. -/
structure CellRef where
  row : Nat
  col : Nat
  rowFixed : Bool := false
  colFixed : Bool := false
  deriving DecidableEq, Repr, Inhabited

namespace CellRef

/-- A reference with nothing fixed. -/
def ofIndices (row col : Nat) : CellRef := { row, col }

/-- A reference with row and column fixed. -/
def fixed (row col : Nat) : CellRef := { row, col, rowFixed := true, colFixed := true }

/-- The same cell with nothing fixed. -/
def loose (r : CellRef) : CellRef := CellRef.ofIndices r.row r.col

/-- Whether the cell lies on the largest grid. -/
def onGrid (r : CellRef) : Bool := r.row < maxRows && r.col < maxColumns

/-- The characters of a reference. -/
def chars (r : CellRef) : List Char :=
  (if r.colFixed then ['$'] else []) ++ columnLetters r.col ++
    (if r.rowFixed then ['$'] else []) ++ naturalText (r.row + 1)

/-- The written form of a reference. -/
def text (r : CellRef) : String := String.ofList r.chars

end CellRef

/-! ## 4. References to rectangles -/

/-- A reference to a rectangle by two opposite corners, kept as they were written. -/
structure RangeRef where
  start : CellRef
  stop : CellRef
  deriving DecidableEq, Repr, Inhabited

namespace RangeRef

/-- The rectangle of one cell. -/
def single (r : CellRef) : RangeRef := ⟨r, r⟩

/-- The rectangle between two positions, nothing fixed. -/
def between (row col row' col' : Nat) : RangeRef :=
  ⟨CellRef.ofIndices row col, CellRef.ofIndices row' col'⟩

def firstRow (r : RangeRef) : Nat := min r.start.row r.stop.row

def lastRow (r : RangeRef) : Nat := max r.start.row r.stop.row

def firstCol (r : RangeRef) : Nat := min r.start.col r.stop.col

def lastCol (r : RangeRef) : Nat := max r.start.col r.stop.col

def topLeft (r : RangeRef) : CellRef := CellRef.ofIndices r.firstRow r.firstCol

def bottomRight (r : RangeRef) : CellRef := CellRef.ofIndices r.lastRow r.lastCol

def rowCount (r : RangeRef) : Nat := r.lastRow - r.firstRow + 1

def colCount (r : RangeRef) : Nat := r.lastCol - r.firstCol + 1

def cellCount (r : RangeRef) : Nat := r.rowCount * r.colCount

/-- Whether a position lies in the rectangle. -/
def contains (r : RangeRef) (row col : Nat) : Bool :=
  r.firstRow ≤ row && row ≤ r.lastRow && r.firstCol ≤ col && col ≤ r.lastCol

/-- The rows of the rectangle, from the top. -/
def rows (r : RangeRef) : List Nat := List.range' r.firstRow r.rowCount

/-- The columns of the rectangle, from the left. -/
def cols (r : RangeRef) : List Nat := List.range' r.firstCol r.colCount

/-- The characters of a reference to a rectangle; a rectangle of one cell is written as the
    cell. -/
def chars (r : RangeRef) : List Char :=
  if r.start = r.stop then r.start.chars else r.start.chars ++ ':' :: r.stop.chars

/-- The written form of a reference to a rectangle. -/
def text (r : RangeRef) : String := String.ofList r.chars

@[simp] theorem mem_rows {r : RangeRef} {row : Nat} :
    row ∈ r.rows ↔ r.firstRow ≤ row ∧ row ≤ r.lastRow := by
  simp only [rows, rowCount, firstRow, lastRow, List.mem_range'_1]
  omega

@[simp] theorem mem_cols {r : RangeRef} {col : Nat} :
    col ∈ r.cols ↔ r.firstCol ≤ col ∧ col ≤ r.lastCol := by
  simp only [cols, colCount, firstCol, lastCol, List.mem_range'_1]
  omega

/-! ## 5. Walking a rectangle -/

/-- A place in the walk over the cells of a rectangle: the columns that every row runs between, the
    last row, the position of the next cell, and how many cells are still to come. -/
structure Cursor where
  firstCol : Nat
  lastCol : Nat
  lastRow : Nat
  row : Nat
  col : Nat
  remaining : Nat
  deriving DecidableEq, Repr

namespace Cursor

/-- The place behind the next cell: one column further, or at the start of the next row. Behind the
    last row there is none; the walk then goes back to the start of that row. -/
def advance (c : Cursor) : Cursor :=
  let c := { c with remaining := c.remaining - 1 }
  if c.col = c.lastCol then
    { c with col := c.firstCol, row := if c.row < c.lastRow then c.row + 1 else c.row }
  else { c with col := c.col + 1 }

/-- The next cell and the place behind it, unless all cells have gone by. -/
def next? (c : Cursor) : Option (CellRef × Cursor) :=
  if c.remaining = 0 then none else some (CellRef.ofIndices c.row c.col, c.advance)

/-- The next `n` cells, as far as there are any, behind those that have gone by, and the place
    behind them. Those that have gone by are given last one first. -/
def collect (c : Cursor) (passed : List CellRef) : Nat → List CellRef × Cursor
  | 0 => (passed.reverse, c)
  | n + 1 =>
    match c.next? with
    | none => (passed.reverse, c)
    | some (cell, c) => c.collect (cell :: passed) n

/-- The next `n` cells, as far as there are any, and the place behind them. -/
def take (c : Cursor) (n : Nat) : List CellRef × Cursor := c.collect [] n

end Cursor

/-- The walk over a rectangle, at its start. -/
def walk (r : RangeRef) : Cursor where
  firstCol := r.firstCol
  lastCol := r.lastCol
  lastRow := r.lastRow
  row := r.firstRow
  col := r.firstCol
  remaining := r.cellCount

/-- All cells of the rectangle, row by row. -/
def cells (r : RangeRef) : List CellRef := (r.walk.take r.walk.remaining).1

end RangeRef

end Gridcalc
