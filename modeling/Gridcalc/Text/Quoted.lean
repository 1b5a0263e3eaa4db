import Gridcalc.Text.Letter
import Gridcalc.Text.VisibleTable

/-!
# Quoted texts

A text between double quotes in which every character can be told from its looks: what has no shape
of its own is written by its code point.

* `quoted` writes a text in this way.
-/

namespace Gridcalc.Text

/-- Whether a character can be recognised by its shape. -/
def isVisible (c : Char) : Bool :=
  if c.toNat < 128 then 32 ≤ c.toNat && c.toNat < 127
  else !inBounds shapelessBounds c.toNat

/-- A character within quotes. -/
def quotedChar (c : Char) : List Char :=
  match c with
  | '\x00' => ['\\', '0']
  | '\t' => ['\\', 't']
  | '\r' => ['\\', 'r']
  | '\n' => ['\\', 'n']
  | '\\' => ['\\', '\\']
  | '"' => ['\\', '"']
  | c => if isVisible c then [c] else "\\u\x7b".toList ++ Nat.toDigits 16 c.toNat ++ ['\x7d']

/-- A text in quotes. -/
def quoted (cs : List Char) : List Char := '"' :: cs.flatMap quotedChar ++ ['"']

end Gridcalc.Text
