import Gridcalc.Address.Reading
import Gridcalc.Value.Basic

/-!
# Tokens of a formula

The smallest pieces of a formula text. A token keeps the characters it was read from and the blanks
in front of it, so the text of a formula is the concatenation of its tokens.

* `TokenKind` is what a token stands for, `TokenKind.describe` names it in diagnostics;
* `Token` is a token with its place in the text.
-/

namespace Gridcalc

/-- What a token stands for. -/
inductive TokenKind where
  | equals
  /-- A cell address, with the name of a sheet where one is given. -/
  | cell (sheet : Option String) (address : CellRef)
  | number (x : Float)
  /-- A quoted text, quotes resolved. -/
  | text (s : String)
  | error (e : ErrorValue)
  /-- The name of a function or anything else that has the form of a name. -/
  | name (s : String)
  | plus | minus | star | slash | ampersand | colon | comma
  | openParen | closeParen
  | less | greater | lessEqual | greaterEqual | notEqual
  /-- Characters that form no token of the language. -/
  | unknown (s : String)
  /-- The end of the text. -/
  | finish
  deriving DecidableEq, Repr, Inhabited

namespace TokenKind

/-- How diagnostics name a token. -/
def describe : TokenKind → String
  | .equals => "'='"
  | .cell (some sheet) address => s!"cell reference '{sheet}!{address.text}'"
  | .cell none address => s!"cell reference '{address.text}'"
  | .number x => s!"number {String.ofList (shortText x)}"
  | .text s => s!"string \"{s}\""
  | .error e => s!"error {e.literal}"
  | .name s => s!"identifier '{s}'"
  | .plus => "'+'"
  | .minus => "'-'"
  | .star => "'*'"
  | .slash => "'/'"
  | .ampersand => "'&'"
  | .colon => "':'"
  | .comma => "','"
  | .openParen => "'('"
  | .closeParen => "')'"
  | .less => "'<'"
  | .greater => "'>'"
  | .lessEqual => "'<='"
  | .greaterEqual => "'>='"
  | .notEqual => "'<>'"
  | .unknown s => s!"'{s}'"
  | .finish => "end of input"

end TokenKind

/-- A token and where it stands. -/
structure Token where
  kind : TokenKind
  /-- The blanks in front of the token. -/
  gap : List Char
  /-- The characters of the token. -/
  source : List Char
  /-- The byte at which the token starts. -/
  start : Nat
  deriving DecidableEq, Repr, Inhabited

namespace Token

/-- The byte after the token. -/
def stop (t : Token) : Nat := t.start + byteLength t.source

/-- All characters that the token accounts for. -/
def chars (t : Token) : List Char := t.gap ++ t.source

end Token

end Gridcalc
