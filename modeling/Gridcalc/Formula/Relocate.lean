import Gridcalc.Formula.Notation
import Gridcalc.Formula.Scan
import Gridcalc.Text.Case

/-!
# Moving references in formula texts

When cells move, the references to them are replaced where they stand in the text; blanks, case and
everything else that is no reference stay as they were written.

* `mapReferences` replaces the references of a text one by one;
* `shiftReferences` is what copying a formula to another place does to it;
* `LineEdit` is an insertion or deletion of rows or columns, `LineEdit.point?` and `LineEdit.span?`
  say where a coordinate and a pair of them go, and `followEdit` is what the edit does to a formula;
* `renameInFormula` follows the renaming of a sheet.
-/

namespace Gridcalc

/-! ## 1. References in a text -/

/-- One address of a reference as it was written. -/
structure Corner where
  /-- The name of a sheet with its exclamation mark, as written; empty if there is none. -/
  mark : List Char
  sheet : Option String
  address : CellRef
  deriving DecidableEq, Repr

/-- The characters up to the last exclamation mark. -/
def markOf (source : List Char) : List Char := (source.reverse.dropWhile (· ≠ '!')).reverse

/-- The address that a token is. -/
def Corner.ofToken? (t : Token) : Option Corner :=
  match t.kind with
  | .cell sheet address => some ⟨markOf t.source, sheet, address⟩
  | _ => none

/-- A corner with another address, the name of the sheet as it was written. -/
def Corner.render (c : Corner) (address : CellRef) : List Char := c.mark ++ address.chars

/-- A reference as it stands in a text: an address, or two with a colon between them. -/
structure Site where
  first : Corner
  second : Option Corner
  deriving DecidableEq, Repr

namespace Site

/-- The sheet that a reference names, the first corner before the second. -/
def sheet (site : Site) : Option String := site.first.sheet <|> site.second.bind Corner.sheet

/-- The reference that starts with a token, and how many of the tokens after it belong to it. -/
def read? (t : Token) (ts : List Token) : Option (Site × Nat) :=
  match Corner.ofToken? t with
  | none => none
  | some first =>
    match ts with
    | colon :: t' :: _ =>
      match colon.kind, Corner.ofToken? t' with
      | .colon, some second => some (⟨first, some second⟩, 2)
      | _, _ => some (⟨first, none⟩, 0)
    | _ => some (⟨first, none⟩, 0)

/-- A reference with each corner written by `f`. -/
def renderWith (site : Site) (f : Corner → List Char) : List Char :=
  f site.first ++ match site.second with
    | some second => ':' :: f second
    | none => []

/-- A reference with every corner moved, or a reference error where one has no new place. -/
def moveWith (site : Site) (place : CellRef → Option CellRef) : List Char :=
  let moved (c : Corner) : Option (List Char) := (place c.address).map c.render
  match moved site.first, site.second.map moved with
  | some a, none => a
  | some a, some (some b) => a ++ ':' :: b
  | _, _ => ErrorValue.ref.literal.toList

end Site

/-- The text of some tokens with references replaced; `edit` gives what stands in place of one, or
    nothing to leave it as it is. -/
def mapSites (edit : Site → Option (List Char)) : List Token → List Char
  | [] => []
  | t :: ts =>
    match Site.read? t ts with
    | none => t.chars ++ mapSites edit ts
    | some (site, n) =>
      let here := match edit site with
        | some cs => t.gap ++ cs
        | none => t.chars ++ (ts.take n).flatMap Token.chars
      here ++ mapSites edit (ts.drop n)
termination_by ts => ts.length
decreasing_by all_goals simp only [List.length_drop, List.length_cons]; omega

/-- A formula text with references replaced. -/
def mapReferences (edit : Site → Option (List Char)) (formula : String) : String :=
  let (tokens, finish) := scan formula.toList
  String.ofList (mapSites edit tokens ++ finish.chars)

/-- Where no reference is replaced, the text of the tokens stays. -/
theorem mapSites_none (ts : List Token) : mapSites (fun _ => none) ts = ts.flatMap Token.chars := by
  fun_induction mapSites (fun _ => none) ts with
  | case1 => rfl
  | case2 t ts h ih => simp [ih]
  | case3 t ts site n h here ih =>
    have e : (ts.take n).flatMap Token.chars ++ (ts.drop n).flatMap Token.chars =
        ts.flatMap Token.chars := by
      rw [← List.flatMap_append, List.take_append_drop]
    simp [here, ih, e]

/-- A formula without a replaced reference is as it was. -/
theorem mapReferences_none (formula : String) :
    mapReferences (fun _ => none) formula = formula := by
  simp [mapReferences, mapSites_none, chars_scan]

/-! ## 2. Coordinates -/

/-- The two directions in which lines of cells run. -/
inductive Axis where
  | row
  | column
  deriving DecidableEq, Repr

namespace Axis

/-- How many lines the grid has. -/
def limit : Axis → Nat
  | .row => maxRows
  | .column => maxColumns

/-- The line that an address lies on. -/
def line (axis : Axis) (r : CellRef) : Nat :=
  match axis with
  | .row => r.row
  | .column => r.col

/-- Whether the line of an address is fixed. -/
def isFixed (axis : Axis) (r : CellRef) : Bool :=
  match axis with
  | .row => r.rowFixed
  | .column => r.colFixed

/-- The address on another line. -/
def put (axis : Axis) (r : CellRef) (line : Nat) : CellRef :=
  match axis with
  | .row => { r with row := line }
  | .column => { r with col := line }

/-- The address moved along the axis, unless its line is fixed; none outside the grid. -/
def shift? (axis : Axis) (delta : Int) (r : CellRef) : Option CellRef :=
  if axis.isFixed r then some r
  else
    let moved := (axis.line r : Int) + delta
    if 0 ≤ moved ∧ moved < axis.limit then some (axis.put r moved.toNat) else none

end Axis

/-- An address moved by rows and columns; what is fixed stays, and an address that is not moved
    along an axis is not looked at there. -/
def CellRef.shift? (rows cols : Int) (r : CellRef) : Option CellRef := do
  let r ← if rows = 0 then some r else Axis.row.shift? rows r
  if cols = 0 then some r else Axis.column.shift? cols r

/-- A formula copied so many rows down and columns to the right. -/
def shiftReferences (rows cols : Int) (formula : String) : String :=
  if rows = 0 ∧ cols = 0 then formula
  else mapReferences (fun site => some (site.moveWith (CellRef.shift? rows cols))) formula

/-! ## 3. Inserting and deleting lines -/

/-- An insertion of empty lines before line `start`, or a deletion of the lines from `start`. -/
structure LineEdit where
  axis : Axis
  inserts : Bool
  start : Nat
  count : Nat
  deriving DecidableEq, Repr

namespace LineEdit

def insertRows (start count : Nat) : LineEdit := ⟨.row, true, start, count⟩

def deleteRows (start count : Nat) : LineEdit := ⟨.row, false, start, count⟩

def insertColumns (start count : Nat) : LineEdit := ⟨.column, true, start, count⟩

def deleteColumns (start count : Nat) : LineEdit := ⟨.column, false, start, count⟩

/-- Lines are counted in words of 32 bits, and counting past the last word starts again from
    zero. -/
def wordLimit : Nat := twoTo 32

/-- Whether a line is deleted; a block of lines ends before the last word. -/
def deletes (edit : LineEdit) (line : Nat) : Bool :=
  edit.start ≤ line && line < min (edit.start + edit.count) (wordLimit - 1)

/-- Where a line goes; none if it is deleted or pushed off the grid. A fixed line stays where it is
    unless it is deleted. -/
def point? (edit : LineEdit) (line : Nat) (fixed : Bool) : Option Nat :=
  if edit.inserts then
    if fixed || line < edit.start then some line
    else
      let moved := (line + edit.count) % wordLimit
      if moved < edit.axis.limit then some moved else none
  else if edit.deletes line then none
  else if !fixed && (edit.start + edit.count) % wordLimit ≤ line then
    some ((line + wordLimit - edit.count) % wordLimit)
  else some line

/-- Where the two ends of a span go, the lower one first. An end that is deleted moves to the
    nearest line that stays, and one that is pushed off the grid to the last line; none if nothing
    of the span is left. -/
def span? (edit : LineEdit) (lo : Nat × Bool) (hi : Nat × Bool) : Option (Nat × Nat) :=
  if edit.inserts then
    (edit.point? lo.1 lo.2).map fun a => (a, (edit.point? hi.1 hi.2).getD (edit.axis.limit - 1))
  else
    let low := if edit.deletes lo.1 then some edit.start else edit.point? lo.1 lo.2
    let high :=
      if edit.deletes hi.1 then if edit.start = 0 then none else some (edit.start - 1)
      else edit.point? hi.1 hi.2
    match low, high with
    | some a, some b => if a ≤ b then some (a, b) else none
    | _, _ => none

/-- Where the two corners of a range go; which of them is the lower one stays. -/
def corners? (edit : LineEdit) (a b : CellRef) : Option (CellRef × CellRef) :=
  let place (r : CellRef) := (edit.axis.line r, edit.axis.isFixed r)
  if edit.axis.line b < edit.axis.line a then
    (edit.span? (place b) (place a)).map fun (lo, hi) => (edit.axis.put a hi, edit.axis.put b lo)
  else
    (edit.span? (place a) (place b)).map fun (lo, hi) => (edit.axis.put a lo, edit.axis.put b hi)

/-- Where a single address goes. -/
def address? (edit : LineEdit) (r : CellRef) : Option CellRef :=
  (edit.point? (edit.axis.line r) (edit.axis.isFixed r)).map (edit.axis.put r)

/-- A reference after the edit. -/
def renderSite (edit : LineEdit) (site : Site) : List Char :=
  let moved : Option (List Char) := match site.second with
    | none => (edit.address? site.first.address).map site.first.render
    | some second =>
      (edit.corners? site.first.address second.address).map fun (a, b) =>
        site.first.render a ++ ':' :: second.render b
  moved.getD ErrorValue.ref.literal.toList

/-- Whether a reference in a formula means the sheet that is edited: it names that sheet, or names
    none and the formula lives there. -/
def concerns (target : String) (onTarget : Bool) (site : Site) : Bool :=
  match site.sheet with
  | some sheet => Text.sameIgnoringCase sheet target
  | none => onTarget

end LineEdit

/-- A formula after rows or columns of the sheet `target` were inserted or deleted; `onTarget` says
    whether the formula lives on that sheet. -/
def followEdit (edit : LineEdit) (target : String) (onTarget : Bool) (formula : String) : String :=
  mapReferences (fun site =>
    if LineEdit.concerns target onTarget site then some (edit.renderSite site) else none) formula

/-! ## 4. Renaming sheets -/

/-- Whether a corner names a sheet. -/
def Corner.names (sheet : String) (c : Corner) : Bool :=
  match c.sheet with
  | some name => Text.sameIgnoringCase name sheet
  | none => false

/-- A corner with the sheet `old` called `new`. -/
def Corner.renamed (old new : String) (c : Corner) : List Char :=
  (if c.names old then sheetPrefix new else c.mark) ++ c.address.chars

/-- A formula after the sheet `old` was renamed to `new`. -/
def renameInFormula (old new formula : String) : String :=
  mapReferences (fun site =>
    if site.first.names old || (site.second.map (Corner.names old)).getD false then
      some (site.renderWith (Corner.renamed old new))
    else none) formula

end Gridcalc
