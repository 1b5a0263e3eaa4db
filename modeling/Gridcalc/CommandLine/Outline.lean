import Gridcalc.Formula.Expr
import Gridcalc.Formula.Token
import Gridcalc.Number.Decimal
import Gridcalc.Text.Quoted

/-!
# Outlines

Trees and tokens as nested groups of named parts, for reading by people.

* `Outline` is a nest of groups, `Outline.inline` writes it on one line, `Outline.indented` with a
  line for every part;
* `TokenKind.outline` and `Expr.outline` say how tokens and trees are outlined.
-/

namespace Gridcalc

/-! ## 1. Outlines and their two forms -/

/-- What stands around the parts of a group. -/
inductive Enclosure where
  | parentheses
  | braces
  | brackets
  deriving DecidableEq, Repr

/-- A nest of groups. -/
inductive Outline where
  /-- A single word. -/
  | word (s : String)
  /-- A part with a label. -/
  | labelled (label : String) (body : Outline)
  /-- Parts in an enclosure; the name of the group may be empty. -/
  | group (name : String) (enclosure : Enclosure) (parts : List Outline)
  deriving Repr

namespace Enclosure

/-- The opening mark; a blank sets braces off from the name of the group. -/
def opening : Enclosure → String
  | .parentheses => "("
  | .braces => " \x7b"
  | .brackets => "["

def closing : Enclosure → String
  | .parentheses => ")"
  | .braces => "\x7d"
  | .brackets => "]"

/-- What stands on the inner side of both marks when the parts are on one line. -/
def padding : Enclosure → String
  | .braces => " "
  | _ => ""

end Enclosure

namespace Outline

mutual

/-- An outline on one line. -/
def inline : Outline → String
  | .word s => s
  | .labelled label body => label ++ ": " ++ body.inline
  | .group name e parts =>
    name ++ e.opening ++ e.padding ++ ", ".intercalate (inlineParts parts) ++ e.padding ++ e.closing

/-- Each of some outlines on one line. -/
def inlineParts : List Outline → List String
  | [] => []
  | o :: os => o.inline :: inlineParts os

end

/-- Puts a text in front of the first of some lines. -/
def startWith (s : String) : List String → List String
  | [] => [s]
  | line :: lines => (s ++ line) :: lines

/-- Puts a text behind the last of some lines. -/
def endWith (s : String) : List String → List String
  | [] => [s]
  | [line] => [line ++ s]
  | line :: lines => line :: endWith s lines

mutual

/-- The lines of an outline with every part of a group on lines of its own. -/
def lines : Outline → List String
  | .word s => [s]
  | .labelled label body => startWith (label ++ ": ") body.lines
  | .group name e [] => [name ++ e.opening ++ e.closing]
  | .group name e (o :: os) => (name ++ e.opening) :: (innerLines (o :: os) ++ [e.closing])

/-- The lines of the parts of a group, each part closed by a comma. -/
def innerLines : List Outline → List String
  | [] => []
  | o :: os => (endWith "," o.lines).map ("    " ++ ·) ++ innerLines os

end

/-- An outline with a line for every part. -/
def indented (o : Outline) : String := "\n".intercalate o.lines

/-! ## 2. Common parts -/

def ofNat (n : Nat) : Outline := .word (toString n)

def ofBool (b : Bool) : Outline := .word (if b then "true" else "false")

def ofFloat (x : Float) : Outline := .word (String.ofList (pointedText x))

def ofString (s : String) : Outline := .word (String.ofList (Text.quoted s.toList))

/-- A value of a kind. -/
def tagged (tag : String) (body : Outline) : Outline := .group tag .parentheses [body]

/-- A list of named fields. -/
def record (name : String) (fields : List (String × Outline)) : Outline :=
  .group name .braces (fields.map fun (label, body) => .labelled label body)

/-- The name of a sheet, if there is one. -/
def ofSheet : Option String → Outline
  | none => .word "None"
  | some name => tagged "Some" (ofString name)

end Outline

open Outline

/-! ## 3. Tokens and trees -/

def ErrorValue.outline : ErrorValue → Outline
  | .value => .word "Value"
  | .ref => .word "Ref"
  | .divZero => .word "Div0"
  | .name => .word "Name"
  | .circular => .word "Circular"
  | .notAvailable => .word "NA"
  | .num => .word "Num"

def CellRef.outline (r : CellRef) : Outline :=
  record "CellRef" [("row", ofNat r.row), ("col", ofNat r.col), ("row_absolute", ofBool r.rowFixed),
    ("col_absolute", ofBool r.colFixed)]

def RangeRef.outline (r : RangeRef) : Outline :=
  record "RangeRef" [("start", r.start.outline), ("end", r.stop.outline)]

/-- The kind of a token by name. -/
def TokenKind.label : TokenKind → String
  | .equals => "Equals"
  | .cell .. => "CellIdentifier"
  | .number _ => "Number"
  | .text _ => "String"
  | .error _ => "ErrorLiteral"
  | .name _ => "Identifier"
  | .plus => "Plus"
  | .minus => "Minus"
  | .star => "Star"
  | .slash => "Slash"
  | .ampersand => "Ampersand"
  | .colon => "Colon"
  | .comma => "Comma"
  | .openParen => "LParen"
  | .closeParen => "RParen"
  | .less => "Less"
  | .greater => "Greater"
  | .lessEqual => "LessEqual"
  | .greaterEqual => "GreaterEqual"
  | .notEqual => "NotEqual"
  | .unknown _ => "Unknown"
  | .finish => "Eof"

/-- The kind of a token with what it carries. -/
def TokenKind.outline (kind : TokenKind) : Outline :=
  match kind with
  | .cell sheet address => tagged kind.label
      (record "CellToken" [("sheet", ofSheet sheet), ("address", address.outline)])
  | .number x => tagged kind.label (ofFloat x)
  | .text s | .name s | .unknown s => tagged kind.label (ofString s)
  | .error e => tagged kind.label e.outline
  | _ => .word kind.label

def Operator.outline : Operator → Outline
  | .add => .word "Add"
  | .subtract => .word "Subtract"
  | .multiply => .word "Multiply"
  | .divide => .word "Divide"
  | .concat => .word "Concat"
  | .equal => .word "Equal"
  | .notEqual => .word "NotEqual"
  | .less => .word "LessThan"
  | .lessEqual => .word "LessEqual"
  | .greater => .word "GreaterThan"
  | .greaterEqual => .word "GreaterEqual"

mutual

/-- The tree of a formula. -/
def Expr.outline : Expr → Outline
  | .number x => tagged "Number" (ofFloat x)
  | .text s => tagged "String" (ofString s)
  | .boolean b => tagged "Boolean" (ofBool b)
  | .error e => tagged "Error" e.outline
  | .cell sheet address => tagged "CellRef"
      (record "CellReference" [("sheet", ofSheet sheet), ("address", address.outline)])
  | .range sheet r => tagged "RangeRef"
      (record "RangeReference" [("sheet", ofSheet sheet), ("range", r.outline)])
  | .binary op left right =>
      record "BinaryOp" [("op", op.outline), ("left", left.outline), ("right", right.outline)]
  | .call name args =>
      record "Function" [("name", ofString name), ("args", .group "" .brackets (outlines args))]

/-- The trees of some arguments. -/
def outlines : List Expr → List Outline
  | [] => []
  | e :: es => e.outline :: outlines es

end

end Gridcalc
