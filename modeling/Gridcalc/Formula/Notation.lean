import Gridcalc.Formula.Expr
import Gridcalc.Text.Letter
import Gridcalc.Value.NumberText

/-!
# Formulas as text

How a tree is written: no blanks, parentheses only where the tree would read differently without
them, and sheet names in apostrophes where they are no plain names.

* `sheetPrefix` writes the name of a sheet in front of an address;
* `Expr.chars` and `Expr.render` write a tree, `Reference.text` a reference.
-/

namespace Gridcalc

/-! ## 1. References -/

/-- Whether a sheet name can stand without apostrophes: letters, digits, underscores and points,
    and no ASCII digit in front. -/
def isPlainName (name : List Char) : Bool :=
  match name with
  | [] => false
  | c :: _ => !c.isDigit && name.all fun c => Text.isLetterOrNumber c || c == '_' || c == '.'

/-- A text in which every `c` is written twice. -/
def doubled (c : Char) (cs : List Char) : List Char :=
  cs.flatMap fun d => if d = c then [c, c] else [d]

/-- The name of a sheet as it stands in front of an address. -/
def sheetPrefix (name : String) : List Char :=
  let cs := name.toList
  if isPlainName cs then cs ++ ['!'] else '\'' :: doubled '\'' cs ++ ['\'', '!']

/-- The prefix of a reference, where it names a sheet. -/
def optionalPrefix : Option String → List Char
  | some name => sheetPrefix name
  | none => []

/-- The written form of a reference. A rectangle is written by both corners even if it is one
    cell. -/
def Reference.chars : Reference → List Char
  | .cell sheet address => optionalPrefix sheet ++ address.chars
  | .range sheet r => optionalPrefix sheet ++ r.start.chars ++ ':' :: r.stop.chars

def Reference.text (r : Reference) : String := String.ofList r.chars

/-! ## 2. Trees -/

namespace Expr

/-- Whether an operand needs parentheses: it binds more weakly than the operator around it, or
    equally and stands on its right. -/
def needsGroup (parent : Operator) (onRight : Bool) : Expr → Bool
  | .binary op _ _ => op.strength < parent.strength || (onRight && op.strength == parent.strength)
  | _ => false

/-- A text in parentheses, if they are needed. -/
def grouped (group : Bool) (cs : List Char) : List Char := if group then '(' :: cs ++ [')'] else cs

mutual

/-- The characters of a tree. -/
def chars : Expr → List Char
  | .number x => showNumber x
  | .text s => '"' :: doubled '"' s.toList ++ ['"']
  | .boolean b => (if b then "TRUE" else "FALSE").toList
  | .error e => e.literal.toList
  | .cell sheet address => Reference.chars (.cell sheet address)
  | .range sheet r => Reference.chars (.range sheet r)
  | .binary op left right =>
    grouped (needsGroup op false left) (chars left) ++ op.symbol.toList ++
      grouped (needsGroup op true right) (chars right)
  | .call name args => name.toList ++ '(' :: charsOfArgs args ++ [')']

/-- The characters of the arguments of a call, with commas between them. -/
def charsOfArgs : List Expr → List Char
  | [] => []
  | e :: es =>
    match es with
    | [] => chars e
    | _ :: _ => chars e ++ ',' :: charsOfArgs es

end

/-- The written form of a tree. -/
def render (e : Expr) : String := String.ofList e.chars

end Expr

end Gridcalc
