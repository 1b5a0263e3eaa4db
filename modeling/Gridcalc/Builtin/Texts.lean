import Gridcalc.Builtin.Argument
import Gridcalc.Text.Place
import Gridcalc.Text.Wildcard
import Gridcalc.Value.Picture

/-!
# Functions of texts

Cutting, searching, replacing and joining texts. Lengths and places count characters.
-/

namespace Gridcalc.Builtin

/-- The most characters that repeating and joining may give. -/
def maxTextLength : Nat := 32767

/-! ## 1. Cutting -/

def leftEnd (args : List Arg) (_ : Context) : Outcome Value := do
  let s ← textAt args 0
  textResult (s.take (← countAt args 1 1))

def rightEnd (args : List Arg) (_ : Context) : Outcome Value := do
  let s ← textAt args 0
  textResult (s.drop (s.length - (← countAt args 1 1)))

def middle (args : List Arg) (_ : Context) : Outcome Value := do
  let s ← textAt args 0
  let place ← placeAt args 1 1
  textResult ((s.drop place).take (← countAt args 2 0))

def length (args : List Arg) (_ : Context) : Outcome Value := do
  countResult (← textAt args 0).length

/-! ## 2. Searching -/

/-- What a search works on: the sought text, the text, and the place to start at. No search starts
    behind the place after the last character. -/
def searchArguments (args : List Arg) : Outcome (List Char × List Char × Nat) := do
  let needle ← textAt args 0
  let s ← textAt args 1
  let start := wholeOf (← numberAtOr args 2 1)
  if start < 1 then .refuse .value
  else if s.length + 1 < toCount start then .refuse .value
  else return (needle, s, toCount start)

/-- The place of a text in another, case included. -/
def find (args : List Arg) (_ : Context) : Outcome Value := do
  let (needle, s, start) ← searchArguments args
  let skipped := min s.length (placeBefore start)
  let place ← .orRefuse .value (Text.firstPlace? needle (s.drop skipped))
  countResult (skipped + place + 1)

/-- The place where a pattern fits in a text. -/
def search (args : List Arg) (_ : Context) : Outcome Value := do
  let (needle, s, start) ← searchArguments args
  if needle.isEmpty then countResult start
  else
    let skipped := min s.length (placeBefore start)
    let (place, _) ← .orRefuse .value ((Text.Pattern.ofChars needle).find? (s.drop skipped))
    countResult (skipped + place + 1)

/-! ## 3. Replacing -/

/-- One text in place of another, everywhere or at one occurrence. -/
def substitute (args : List Arg) (_ : Context) : Outcome Value := do
  let s ← textAt args 0
  let old ← textAt args 1
  let new ← textAt args 2
  if old.isEmpty then textResult s
  else if args.length < 4 then textResult (Text.replaceAll old new s)
  else textResult (Text.replaceOne old new (← placeAt args 3 1) s)

/-- A text in place of some characters. -/
def replace (args : List Arg) (_ : Context) : Outcome Value := do
  let s ← textAt args 0
  let place ← placeAt args 1 1
  let n ← countAt args 2 0
  textResult (Text.splice place n (← textAt args 3) s)

/-- A text with single spaces between its words and none around them. -/
def trimSpaces (args : List Arg) (_ : Context) : Outcome Value := do
  textResult (List.intercalate [' '] (Text.wordsOf (← textAt args 0)))

/-! ## 4. Case -/

/-- A capital for the first letter of each run of letters, small letters for the others.
    `afterLetter` says whether a letter is in front. -/
def properCase (afterLetter : Bool) : List Char → List Char
  | [] => []
  | c :: cs =>
    if Text.isLetter c then
      (if afterLetter then Text.small c else Text.capital c) ++ properCase true cs
    else c :: properCase false cs

/-- A text converted by `f`. -/
def convertText (f : List Char → List Char) (args : List Arg) (_ : Context) : Outcome Value := do
  textResult (f (← textAt args 0))

/-! ## 5. Repeating and joining -/

def repeatText (args : List Arg) (_ : Context) : Outcome Value := do
  let s ← textAt args 0
  let n ← countAt args 1 0
  if maxTextLength < s.length * n then .refuse .value
  else textResult (if s.isEmpty then [] else (List.replicate n s).flatten)

/-- A value in a picture. -/
def textWithPicture (args : List Arg) (_ : Context) : Outcome Value := do
  let picture ← textAt args 1
  textResult (← .lift (showWith picture (scalarAt args 0)))

/-- The texts of some values; the first error wins. -/
def textsOf (vs : List Value) : Outcome (List (List Char)) :=
  match firstError? vs with
  | some e => .refuse e
  | none => .ok (vs.map fun v => v.display.toList)

/-- The texts of all arguments with a separator between them, empty ones left out unless told
    otherwise. -/
def joinTexts (args : List Arg) (_ : Context) : Outcome Value := do
  let separator ← textAt args 0
  let skipsEmpty ← booleanAtOr args 1 true
  let texts ← textsOf ((args.drop 2).flatMap Arg.values)
  let texts := if skipsEmpty then texts.filter fun t => !t.isEmpty else texts
  let joined := List.intercalate separator texts
  if maxTextLength < joined.length then .refuse .value else textResult joined

/-- The texts of all arguments one after the other, the cells of rectangles included. -/
def concatAll (args : List Arg) (_ : Context) : Outcome Value := do
  textResult (← textsOf (args.flatMap Arg.values)).flatten

/-- The texts of all arguments one after the other, each of them a single value. -/
def concatScalars (args : List Arg) (_ : Context) : Outcome Value := do
  textResult (← textsOf (args.map Arg.scalar)).flatten

end Gridcalc.Builtin
