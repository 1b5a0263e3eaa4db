import Gridcalc.Formula.Relocate
import Gridcalc.Workbook.Cells

/-!
# Copying and cutting

A clip holds the cells of a range as they were when it was copied or cut. Pasting replaces a
rectangle of the same size, blanks included. References in copied formulas move along; what was cut
is pasted as it was, and its source is cleared.

* `Workbook.clip` fills a clip, `Edit.pasteClip` pastes it;
* `Edit.paste` is pasting from a clipboard, which holds a clip or nothing.
-/

namespace Gridcalc

/-! ## 1. Clips -/

inductive ClipMode where
  | copy
  | cut
  deriving DecidableEq, Repr

/-- What was copied or cut. -/
structure Clip where
  mode : ClipMode
  sheet : Nat
  source : RangeRef
  /-- The stored cells, by their distance from the top left corner. -/
  cells : List (Nat × Nat × Cell)
  deriving DecidableEq, Repr

/-- A clipboard holds a clip or nothing. -/
abbrev Clipboard := Option Clip

/-- The stored cells of a range. -/
def Worksheet.cellsIn (ws : Worksheet) (range : RangeRef) : List (Nat × Nat × Cell) :=
  ws.cells.filter fun (row, col, _) => range.contains row col

/-- Copies or cuts a range; the workbook does not change before the clip is pasted. -/
def Workbook.clip (wb : Workbook) (mode : ClipMode) (sheet : Nat) (range : RangeRef) :
    Except Failure Clip :=
  match wb.sheet? sheet with
  | none => .error (.sheetOutOfBounds sheet wb.tabs.length)
  | some ws =>
    if ws.containsRange range then
      let cells := (ws.cellsIn range).map fun (row, col, cell) =>
        (row - range.firstRow, col - range.firstCol, cell)
      .ok { mode, sheet, source := range, cells }
    else .error (.invalidRange (.beyondSheet range))

/-- The rectangle that a clip covers when its top left corner comes to a place. -/
def Clip.target (clip : Clip) (corner : CellRef) : RangeRef :=
  .between corner.row corner.col (corner.row + clip.source.rowCount - 1)
    (corner.col + clip.source.colCount - 1)

/-- A cell of a clip as it is pasted: references in a copied formula move with it. -/
def Clip.placed (clip : Clip) (corner : CellRef) (cell : Cell) : Cell :=
  match clip.mode with
  | .cut => cell
  | .copy =>
    let rows : Int := corner.row - clip.source.firstRow
    let cols : Int := corner.col - clip.source.firstCol
    { cell with formula := cell.formula.map (shiftReferences rows cols) }

/-- The clipboard after pasting: what was cut can be pasted only once. -/
def Clipboard.afterPaste (clipboard : Clipboard) : Clipboard :=
  clipboard.filter fun clip => clip.mode = .copy

/-! ## 2. Pasting -/

namespace Edit

/-- The positions of the stored cells of a range. -/
def storedIn (sheet : Nat) (range : RangeRef) : Edit (List CellKey) := do
  let ws ← getSheet sheet
  return (ws.cellsIn range).map fun (row, col, _) => ⟨sheet, row, col⟩

/-- Pastes a clip with its top left corner at a place, and gives the rectangle it covers. -/
def pasteClip (clip : Clip) (sheet : Nat) (corner : CellRef) : Edit RangeRef := do
  let ws ← getSheet sheet
  let target := clip.target corner
  if !ws.containsRange target then throw (.invalidRange (.pasteBeyondSheet corner ws.name))
  let left ← if clip.mode = .cut then storedIn clip.sheet clip.source else pure []
  let cleared := left ++ (← storedIn sheet target)
  cleared.forM fun key => putCell key none
  let placed := clip.cells.map fun (row, col, cell) =>
    (CellKey.mk sheet (corner.row + row) (corner.col + col), clip.placed corner cell)
  placed.forM fun (key, cell) => putCell key (some cell)
  let _ ← recalculate (cleared ++ placed.map (·.1))
  return target

/-- Pastes what a clipboard holds, if it holds anything. -/
def pasteFrom (clipboard : Clipboard) (sheet : Nat) (corner : CellRef) : Edit (Option RangeRef) :=
  match clipboard with
  | none => return none
  | some clip => do return some (← pasteClip clip sheet corner)

/-- Pastes what a clipboard holds, and gives the clipboard afterwards as well. -/
def paste (clipboard : Clipboard) (sheet : Nat) (corner : CellRef) :
    Edit (Option RangeRef × Clipboard) := do
  return (← pasteFrom clipboard sheet corner, clipboard.afterPaste)

end Edit

end Gridcalc
