import Gridcalc.Sheet.Cell
import Std.Data.ExtTreeMap
import Std.Data.ExtTreeSet

/-!
# Sparse storage

The stored cells of one sheet, row by row, and the set of its hidden rows. A row without stored
cells is not kept.

* `CellStore.get?` is the view: every operation says what it does to it;
* `set`, `erase`, `touch`, `modify` change one cell;
* `insertRows`, `deleteRows`, `insertColumns`, `deleteColumns` shift the cells behind a place;
* `cells`, `rowCells`, `bounds`, `cellCount` read the whole.

Row indices are below `2 ^ 32` and column indices below `2 ^ 16`.
-/

namespace Gridcalc

/-- The stored cells of one row, by column. -/
abbrev RowCells := Std.ExtTreeMap Nat Cell

/-- The stored cells of a sheet by row, and the hidden rows. -/
structure CellStore where
  rows : Std.ExtTreeMap Nat RowCells := ∅
  hidden : Std.ExtTreeSet Nat := ∅

namespace CellStore

/-! ## 1. One cell -/

/-- The cell stored at a position. -/
def get? (s : CellStore) (row col : Nat) : Option Cell :=
  (s.rows[row]?).bind fun cells => cells[col]?

/-- The stored cells of a row; none for a row that is not kept. -/
def rowMap (s : CellStore) (row : Nat) : RowCells := (s.rows[row]?).getD ∅

/-- Stores a cell, blank or not. -/
def put (s : CellStore) (row col : Nat) (cell : Cell) : CellStore :=
  { s with rows := s.rows.insert row ((s.rowMap row).insert col cell) }

/-- Drops the cell at a position, and its row where that was the last cell. -/
def erase (s : CellStore) (row col : Nat) : CellStore :=
  match s.rows[row]? with
  | none => s
  | some cells =>
    let cells := cells.erase col
    if cells.isEmpty then { s with rows := s.rows.erase row }
    else { s with rows := s.rows.insert row cells }

/-- Stores a cell; a blank one is dropped instead. -/
def set (s : CellStore) (row col : Nat) (cell : Cell) : CellStore :=
  if cell.isBlank then s.erase row col else s.put row col cell

/-- Makes sure that a cell is stored, a blank one if need be. -/
def touch (s : CellStore) (row col : Nat) : CellStore :=
  match s.get? row col with
  | some _ => s
  | none => s.put row col {}

/-- Changes the cell at a position, if one is stored. -/
def modify (s : CellStore) (row col : Nat) (f : Cell → Cell) : CellStore :=
  match s.get? row col with
  | some cell => s.put row col (f cell)
  | none => s

/-! ## 2. The whole -/

/-- The stored cells, row by row. -/
def cells (s : CellStore) : List (Nat × Nat × Cell) :=
  s.rows.toList.flatMap fun (row, cells) => cells.toList.map fun (col, cell) => (row, col, cell)

/-- The stored cells of one row. -/
def rowCells (s : CellStore) (row : Nat) : List (Nat × Cell) := (s.rowMap row).toList

/-- How many cells are stored. -/
def cellCount (s : CellStore) : Nat := s.rows.foldl (fun n _ cells => n + cells.size) 0

def isEmpty (s : CellStore) : Bool := s.rows.isEmpty

/-- The first and last row and column with stored cells, as `(top, left, bottom, right)`. -/
def bounds (s : CellStore) : Option (Nat × Nat × Nat × Nat) :=
  match s.rows.minKey?, s.rows.maxKey? with
  | some top, some bottom =>
    let firsts := s.rows.toList.filterMap fun (_, cells) => cells.minKey?
    let lasts := s.rows.toList.filterMap fun (_, cells) => cells.maxKey?
    some (top, firsts.foldl min 65535, bottom, lasts.foldl max 0)
  | _, _ => none

/-! ## 3. Hidden rows -/

def isHidden (s : CellStore) (row : Nat) : Bool := s.hidden.contains row

/-- Hides or shows a row. -/
def setHidden (s : CellStore) (row : Nat) (hide : Bool) : CellStore :=
  { s with hidden := if hide then s.hidden.insert row else s.hidden.erase row }

/-- The hidden rows from the top. -/
def hiddenRows (s : CellStore) : List Nat := s.hidden.toList

/-! ## 4. Shifts

Where a line goes when lines are inserted or deleted. An index past the largest one starts again
from zero; the end of a deleted block is at most the largest index. -/

/-- The place of a line after `count` lines were inserted at `start`. -/
def shiftedUp (limit start count line : Nat) : Nat :=
  if line < start then line else (line + count) % limit

/-- The place of a line after the `count` lines from `start` on were deleted, if it is still
    there. -/
def shiftedDown? (limit start count line : Nat) : Option Nat :=
  if line < start then some line
  else if min (start + count) (limit - 1) ≤ line then some (line - count)
  else none

/-- Row indices are below this. -/
def rowLimit : Nat := twoTo 32

/-- Column indices are below this. -/
def colLimit : Nat := twoTo 16

/-- A map with its keys moved; keys without a new place are dropped. -/
def moveKeys {β : Type} (place : Nat → Option Nat) (m : Std.ExtTreeMap Nat β) :
    Std.ExtTreeMap Nat β :=
  m.foldl (fun acc k v => match place k with
    | some k => acc.insert k v
    | none => acc) ∅

/-- A set with its members moved; members without a new place are dropped. -/
def moveMembers (place : Nat → Option Nat) (m : Std.ExtTreeSet Nat) : Std.ExtTreeSet Nat :=
  m.foldl (fun acc k => match place k with
    | some k => acc.insert k
    | none => acc) ∅

/-- Moves rows and hidden rows. -/
def moveRows (s : CellStore) (place : Nat → Option Nat) : CellStore :=
  { rows := moveKeys place s.rows, hidden := moveMembers place s.hidden }

/-- Moves the cells within each row, and drops rows that have none left. -/
def moveColumns (s : CellStore) (place : Nat → Option Nat) : CellStore :=
  { s with
    rows := (s.rows.map fun _ cells => moveKeys place cells).filter fun _ cells => !cells.isEmpty }

/-- Moves the rows from `start` on down by `count`. -/
def insertRows (s : CellStore) (start count : Nat) : CellStore :=
  s.moveRows fun row => some (shiftedUp rowLimit start count row)

/-- Drops `count` rows from `start` on and moves the rows below up. -/
def deleteRows (s : CellStore) (start count : Nat) : CellStore :=
  s.moveRows (shiftedDown? rowLimit start count)

/-- Moves the columns from `start` on to the right by `count`. -/
def insertColumns (s : CellStore) (start count : Nat) : CellStore :=
  s.moveColumns fun col => some (shiftedUp colLimit start count col)

/-- Drops `count` columns from `start` on and moves the columns to their right to the left. -/
def deleteColumns (s : CellStore) (start count : Nat) : CellStore :=
  s.moveColumns (shiftedDown? colLimit start count)

/-! ## 5. The view of one cell -/

@[simp] theorem get?_put (s : CellStore) (row col r c : Nat) (cell : Cell) :
    (s.put row col cell).get? r c = if row = r ∧ col = c then some cell else s.get? r c := by
  simp only [get?, put, rowMap, Std.ExtTreeMap.getElem?_insert, Nat.compare_eq_eq]
  by_cases hr : row = r
  · subst hr
    simp only [if_true, Option.bind_some, Std.ExtTreeMap.getElem?_insert, Nat.compare_eq_eq,
      true_and]
    by_cases hc : col = c
    · simp [hc]
    · simp only [hc, if_false]
      cases s.rows[row]? <;> simp
  · simp [hr]

end CellStore

end Gridcalc
