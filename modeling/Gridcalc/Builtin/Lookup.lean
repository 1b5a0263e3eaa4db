import Gridcalc.Builtin.Argument
import Gridcalc.Number.Binary
import Gridcalc.Text.Wildcard
import Gridcalc.Value.Order

/-!
# Looking up values

Searches in a row or column of values, and the functions that give what stands beside the place
found.

* `findExact?`, `findNearest?` and `findSorted?` are the searches;
* only values of the kind of the sought one are compared with it.
-/

namespace Gridcalc.Builtin

/-! ## 1. Searches -/

/-- Whether two values are both numeric, both texts or both truth values. -/
def sameKind : Value → Value → Bool
  | .text _, .text _ => true
  | .boolean _, .boolean _ => true
  | a, b => a.isNumeric && b.isNumeric

/-- Whether a value is the sought one; a sought text may be a pattern. -/
def isSought (wildcards : Bool) (sought candidate : Value) : Bool :=
  match sought, candidate with
  | .text a, .text b =>
    if wildcards then Text.textMatches a.toList b.toList
    else Text.lowercase a.toList == Text.lowercase b.toList
  | .empty, .empty => true
  | a, b => sameKind a b && a.compare b == .eq

/-- The place of the first value that is the sought one. -/
def findExact? (wildcards : Bool) (sought : Value) (entries : List (Value × Nat)) : Option Nat :=
  (entries.find? fun entry => isSought wildcards sought entry.1).map (·.2)

/-- The place of the first equal value; failing that, of the nearest value on the side `side` of the
    sought one, the first of several. `best` is the nearest one so far. -/
def findNearest? (side : Ordering) (sought : Value) (best : Option (Value × Nat)) :
    List (Value × Nat) → Option Nat
  | [] => best.map (·.2)
  | (v, i) :: entries =>
    if !sameKind sought v then findNearest? side sought best entries
    else
      let order := v.compare sought
      if order = .eq then some i
      else
        let nearer := match best with
          | none => true
          | some (b, _) => v.compare b == side.swap
        let best := if order = side && nearer then some (v, i) else best
        findNearest? side sought best entries

/-- In values sorted one way, the place of the last one before the first that is past the sought
    one. `best` is the last one so far. -/
def findSorted? (descending : Bool) (sought : Value) (best : Option Nat) :
    List (Value × Nat) → Option Nat
  | [] => best
  | (v, i) :: entries =>
    if !sameKind sought v then findSorted? descending sought best entries
    else
      let past := if descending then Ordering.lt else Ordering.gt
      if v.compare sought = past then best else findSorted? descending sought (some i) entries

/-- The values of a rectangle of one row or one column. -/
def line? (view : RangeView) : Option (List Value) :=
  if view.rowCount = 1 then some (view.rowValues 0)
  else if view.colCount = 1 then some (view.colValues 0)
  else none

/-- The sought value; an error is no value to seek. -/
def soughtAt (args : List Arg) : Outcome Value :=
  match scalarAt args 0 with
  | .error e => .refuse e
  | v => .ok v

/-! ## 2. Tables -/

/-- The value beside the one found in the first column of a table, or below the one found in its
    first row. Unless told otherwise the keys are sorted, and the last one not above the sought
    value counts. -/
def tableLookup (horizontal : Bool) (args : List Arg) (_ : Context) : Outcome Value := do
  let sought ← soughtAt args
  let table ← rangeAt args 1
  let index := wholeOf (← numberAt args 2)
  let approximate ← booleanAtOr args 3 true
  let width := if horizontal then table.rowCount else table.colCount
  if index < 1 then .refuse .value
  else if Float.ofNat width < index then .refuse .ref
  else
    let keys := (if horizontal then table.rowValues 0 else table.colValues 0).zipIdx
    let place ← .orRefuse .notAvailable
      (if approximate then findSorted? false sought none keys else findExact? true sought keys)
    let offset := placeBefore (toCount index)
    return if horizontal then table.value offset place else table.value place offset

/-- The place of a value in a row or column, counted from one. -/
def matchPlace (args : List Arg) (_ : Context) : Outcome Value := do
  let sought ← soughtAt args
  let values ← .orRefuse .notAvailable (line? (← rangeAt args 1))
  let kind ← numberAtOr args 2 1
  let entries := values.zipIdx
  let place ← .orRefuse .notAvailable
    (if kind == 0 then findExact? true sought entries
    else findSorted? (kind < 0) sought none entries)
  numberResult (Float.ofNat (place + 1))

/-! ## 3. Parallel ranges -/

/-- How a value is sought. -/
inductive SearchMode where
  | exact
  | pattern
  | nearestBelow
  | nearestAbove
  deriving DecidableEq, Repr

/-- The mode with a code. -/
def SearchMode.ofCode? : Int → Option SearchMode
  | 0 => some .exact
  | -1 => some .nearestBelow
  | 1 => some .nearestAbove
  | 2 => some .pattern
  | _ => none

/-- Whether the search with a code runs from the end. -/
def runsBackwards? : Int → Option Bool
  | 1 | 2 => some false
  | -1 | -2 => some true
  | _ => none

/-- The place of a sought value. -/
def SearchMode.find? (mode : SearchMode) (sought : Value) (entries : List (Value × Nat)) :
    Option Nat :=
  match mode with
  | .exact => findExact? false sought entries
  | .pattern => findExact? true sought entries
  | .nearestBelow => findNearest? .lt sought none entries
  | .nearestAbove => findNearest? .gt sought none entries

/-- The value of the third argument beside the one found in the second, the two running along each
    other. -/
def parallelLookup (args : List Arg) (_ : Context) : Outcome Value := do
  let sought ← soughtAt args
  let searched ← rangeAt args 1
  let returned ← rangeAt args 2
  let keys ← .orRefuse .value (line? searched)
  let mode ← .orRefuse .value (SearchMode.ofCode? (toWord (← numberAtOr args 4 0)))
  let backwards ← .orRefuse .value (runsBackwards? (toWord (← numberAtOr args 5 1)))
  let entries := if backwards then keys.zipIdx.reverse else keys.zipIdx
  match mode.find? sought entries with
  | none => if 3 < args.length then return scalarAt args 3 else .refuse .notAvailable
  | some place =>
    if searched.rowCount = 1 ∧ 1 < searched.colCount then
      if returned.colCount = keys.length then return returned.value 0 place else .refuse .value
    else
      if returned.rowCount = keys.length then return returned.value place 0 else .refuse .value

/-! ## 4. Places -/

/-- The value at a row and a column of a rectangle. Row or column zero stands for the first one, and
    a single number counts along a rectangle of one row. -/
def index (args : List Arg) (_ : Context) : Outcome Value := do
  let view ← rangeAt args 0
  let row := wholeOf (← numberAtOr args 1 0)
  let col := wholeOf (← numberAtOr args 2 0)
  if row < 0 || col < 0 then .refuse .value
  else
    let along := args.length = 2 ∧ view.rowCount = 1 ∧ 1 < view.colCount
    let (row, col) := if along then (col, row) else (row, col)
    if row == 0 && col == 0 then .refuse .value
    else if Float.ofNat view.rowCount < row || Float.ofNat view.colCount < col then .refuse .ref
    else return view.value (toCount row - 1) (toCount col - 1)

/-- The number of the first row of a rectangle, or of the row of the formula. -/
def rowNumber (args : List Arg) (ctx : Context) : Outcome Value := do
  if args.isEmpty then countResult (ctx.row + 1)
  else countResult ((← rangeAt args 0).range.firstRow + 1)

/-- The number of the first column of a rectangle, or of the column of the formula. -/
def columnNumber (args : List Arg) (ctx : Context) : Outcome Value := do
  if args.isEmpty then countResult (ctx.col + 1)
  else countResult ((← rangeAt args 0).range.firstCol + 1)

def rowsOf (args : List Arg) (_ : Context) : Outcome Value := do
  countResult (← rangeAt args 0).rowCount

def columnsOf (args : List Arg) (_ : Context) : Outcome Value := do
  countResult (← rangeAt args 0).colCount

end Gridcalc.Builtin
