import Gridcalc.Text.Case
import Gridcalc.Text.Letter

/-!
# Calls around a caret

Which call an editor's caret sits in, found by a scan over the characters in front of it. It works
on formulas that are still being typed.

* `callHint?` names the innermost call and the argument under the caret.
-/

namespace Gridcalc

/-- The call that a caret sits in: its name in capitals, and the argument counted from zero. -/
structure CallHint where
  name : String
  argument : Nat
  deriving DecidableEq, Repr

/-- What the scan knows at a place. Each open parenthesis has a frame, the innermost first; groups
    have one without a call. -/
structure CaretState where
  frames : List (Option CallHint) := []
  /-- The characters of the word in front, the last one first. -/
  word : List Char := []
  inText : Bool := false
  inSheetName : Bool := false
  deriving Repr

namespace CaretState

/-- Whether a word can be the name of a function. -/
def isFunctionName (word : List Char) : Bool :=
  match word with
  | [] => false
  | c :: _ => Text.isLetter c || c == '_'

/-- The call that a parenthesis after a word opens. -/
def opened (word : List Char) : Option CallHint :=
  if isFunctionName word then some ⟨String.ofList (Text.uppercase word), 0⟩ else none

/-- The frames with one more argument in the innermost one. -/
def nextArgument : List (Option CallHint) → List (Option CallHint)
  | some hint :: frames => some { hint with argument := hint.argument + 1 } :: frames
  | frames => frames

/-- The state after one more character. -/
def step (s : CaretState) (c : Char) : CaretState :=
  if s.inText then { s with inText := c != '"' }
  else if s.inSheetName then { s with inSheetName := c != '\'' }
  else if c = '"' then { s with inText := true, word := [] }
  else if c = '\'' then { s with inSheetName := true, word := [] }
  else if c = '(' then { s with frames := opened s.word.reverse :: s.frames, word := [] }
  else if c = ')' then { s with frames := s.frames.tail, word := [] }
  else if c = ',' then { s with frames := nextArgument s.frames, word := [] }
  else if Text.isLetterOrNumber c || c == '_' || c == '.' then { s with word := c :: s.word }
  else { s with word := [] }

end CaretState

/-- The innermost call around a caret, which stands behind so many characters; none outside of
    calls and inside of texts. -/
def callHint? (formula : String) (caret : Nat) : Option CallHint :=
  let s := (formula.toList.take caret).foldl CaretState.step {}
  if s.inText then none else s.frames.findSome? id

end Gridcalc
