import Gridcalc.Text.Case

/-!
# Wildcard patterns

Patterns for texts: a star stands for any run of characters, a question mark for one character, and
a tilde takes the character after it literally. Case does not count.

* `Pattern.ofChars` reads a pattern;
* `Pattern.covers` tests a whole text, `Pattern.find?` looks for the first place where a pattern
  fits;
* `textMatches` compares a text with a pattern, or with a plain text where there is no wildcard.
-/

namespace Gridcalc.Text

/-! ## 1. Patterns -/

/-- A part of a pattern. -/
inductive Piece where
  /-- Any run of characters, the empty one included. -/
  | run
  /-- Any one character. -/
  | one
  /-- This character or one that differs from it by case only. -/
  | literal (c : Char)
  deriving DecidableEq, Repr

/-- A pattern. -/
abbrev Pattern := List Piece

/-- Whether a text uses the signs of patterns. -/
def hasWildcards (cs : List Char) : Bool := cs.any fun c => c == '*' || c == '?' || c == '~'

namespace Pattern

/-- Reads a pattern; a tilde at the end stands for itself. -/
def ofChars : List Char → Pattern
  | [] => []
  | '~' :: c :: cs => .literal c :: ofChars cs
  | '*' :: cs => .run :: ofChars cs
  | '?' :: cs => .one :: ofChars cs
  | c :: cs => .literal c :: ofChars cs

/-- Whether a piece that takes one character takes this one. -/
def accepts : Piece → Char → Bool
  | .literal d, c => foldChar d == foldChar c
  | _, _ => true

/-- One more character. -/
def longer (n : Option Nat) : Option Nat := n.map (· + 1)

/-- The lengths for `piece` and the pattern after it, given the lengths for that pattern. There is
    one length for each end piece of the text, the whole text first and the empty one last. -/
def addPiece (piece : Piece) : List Char → List (Option Nat) → List (Option Nat)
  | c :: cs, here :: later =>
    let rest := addPiece piece cs later
    let first := match piece with
      | .run => (longer (rest.headD none)).or here
      | piece => if accepts piece c then longer (later.headD none) else none
    first :: rest
  | _, lengths =>
    match piece with
    | .run => lengths
    | _ => [none]

/-- How many characters a pattern takes from the start of each end piece of a text. -/
def lengths (pattern : Pattern) (cs : List Char) : List (Option Nat) :=
  pattern.foldr (fun piece found => addPiece piece cs found)
    (List.replicate (cs.length + 1) (some 0))

/-- The first place where a pattern fits and the place after it, in characters. -/
def find? (pattern : Pattern) (cs : List Char) : Option (Nat × Nat) :=
  (pattern.lengths cs).zipIdx.findSome? fun (n, start) => n.map fun n => (start, start + n)

/-- The flags of `addPiece` for a test of the whole text: whether a pattern covers an end piece. -/
def addFlag (piece : Piece) : List Char → List Bool → List Bool
  | c :: cs, here :: later =>
    let rest := addFlag piece cs later
    let first := match piece with
      | .run => rest.headD false || here
      | piece => accepts piece c && later.headD false
    first :: rest
  | _, flags =>
    match piece with
    | .run => flags
    | _ => [false]

/-- Whether a pattern covers a whole text. -/
def covers (pattern : Pattern) (cs : List Char) : Bool :=
  (pattern.foldr (fun piece found => addFlag piece cs found)
    (List.replicate cs.length false ++ [true])).headD false

end Pattern

/-- Whether a text fits a pattern; without wildcards, whether the two have the same small
    letters. -/
def textMatches (pattern cs : List Char) : Bool :=
  if hasWildcards pattern then (Pattern.ofChars pattern).covers cs
  else lowercase pattern == lowercase cs

end Gridcalc.Text
