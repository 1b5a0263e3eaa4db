import Gridcalc.Failure
import Gridcalc.Text.Blank

/-!
# Reading addresses

* `readColumn` reads column letters, `CellRef.read` a reference to a cell, `RangeRef.read` one to a
  rectangle; each says why it refuses a text;
* `looksLikeCell` is the shape of a cell reference, whatever its column and row.
-/

namespace Gridcalc

/-! ## 1. Columns -/

/-- The column counted from one that letters denote, continuing from `n`. -/
def lettersValue (n : Nat) : List Char → Except Failure Nat
  | [] => .ok n
  | c :: cs =>
    if c.isAlpha then lettersValue (n * 26 + (c.toUpper.toNat - 'A'.toNat + 1)) cs
    else .error (.invalidAddress (.badLetter c))

/-- The number of bytes that a text takes up. -/
def byteLength (cs : List Char) : Nat := cs.foldr (fun c n => c.utf8Size + n) 0

/-- The column that letters denote. No column takes more than three bytes. -/
def readColumn (letters : List Char) : Except Failure Nat :=
  if letters.isEmpty then .error (.invalidAddress .emptyLetters)
  else if 3 < byteLength letters then
    .error (.invalidAddress (.tooWide (String.ofList letters)))
  else
    match lettersValue 0 letters with
    | .error e => .error e
    | .ok n =>
      if n - 1 < maxColumns then .ok (n - 1)
      else .error (.columnOutOfBounds (min (n - 1) 65535) (maxColumns - 1))

/-! ## 2. Cells -/

/-- Whether a dollar sign stands in front, and what follows it. -/
def takeDollar : List Char → Bool × List Char
  | '$' :: cs => (true, cs)
  | cs => (false, cs)

namespace CellRef

/-- The row that digits denote, counted from zero; `whole` is the text they were found in. -/
def readRow (whole digits : List Char) : Except Failure Nat :=
  let fault (f : String → AddressFault) : Except Failure Nat :=
    .error (.invalidAddress (f (String.ofList whole)))
  if digits.isEmpty || !digits.all Char.isDigit then fault .badRow
  else
    let n := digitsValue digits
    if twoTo 32 ≤ n then fault .badRow
    else if n = 0 then fault .rowZero
    else if n - 1 < maxRows then .ok (n - 1)
    else .error (.rowOutOfBounds (n - 1) (maxRows - 1))

/-- Reads a reference without blanks around it. -/
def readTrimmed (cs : List Char) : Except Failure CellRef :=
  if cs.isEmpty then .error (.invalidAddress .empty)
  else
    let (colFixed, rest) := takeDollar cs
    let letters := rest.takeWhile Char.isAlpha
    let rest := rest.dropWhile Char.isAlpha
    if letters.isEmpty then .error (.invalidAddress (.noColumn (String.ofList cs)))
    else
      match readColumn letters with
      | .error e => .error e
      | .ok col =>
        let (rowFixed, digits) := takeDollar rest
        match readRow cs digits with
        | .error e => .error e
        | .ok row => .ok { row, col, rowFixed, colFixed }

/-- Reads a reference; blanks around it do not count. -/
def readChars (cs : List Char) : Except Failure CellRef := readTrimmed (Text.trim cs)

/-- Reads a reference to a cell. -/
def read (s : String) : Except Failure CellRef := readChars s.toList

end CellRef

/-! ## 3. Rectangles -/

/-- Reads a reference to a rectangle: two corners around a colon, or one cell. -/
def RangeRef.read (s : String) : Except Failure RangeRef :=
  let cs := Text.trim s.toList
  match cs.dropWhile (· ≠ ':') with
  | [] => (CellRef.readChars cs).map RangeRef.single
  | _ :: stop =>
    match CellRef.readChars (cs.takeWhile (· ≠ ':')) with
    | .error e => .error e
    | .ok first => (CellRef.readChars stop).map fun second => ⟨first, second⟩

/-! ## 4. The shape of a cell reference -/

/-- Letters and digits, each with an optional dollar sign in front, and nothing else. -/
def looksLikeCell (cs : List Char) : Bool :=
  let letters := (takeDollar cs).2
  let rest := letters.dropWhile Char.isAlpha
  let digits := (takeDollar rest).2
  !(letters.takeWhile Char.isAlpha).isEmpty && !digits.isEmpty && digits.all Char.isDigit

end Gridcalc
