import Gridcalc.Formula.Token
import Gridcalc.Text.Letter

/-!
# Scanning formulas

Cutting a formula text into tokens. Scanning never fails: what fits no rule becomes a token of
unknown kind.

* `readToken` reads the token that starts with a given character and says how many of the
  characters after it belong to it;
* `scan` cuts a whole text, and `tokenize` adds the mark of the end;
* `chars_scan`: the tokens and the blanks between them are the text.
-/

namespace Gridcalc

/-! ## 1. Tokens of several characters

Each reader looks at the characters after the first one and gives the kind of the token and the
number of those characters that belong to it. -/

/-- A quoted text: two quotes stand for one, and the end of the formula closes it. -/
def readQuoted : List Char → List Char × Nat
  | [] => ([], 0)
  | '"' :: '"' :: cs =>
    let (s, n) := readQuoted cs
    ('"' :: s, n + 2)
  | c :: cs =>
    if c = '"' then ([], 1)
    else
      let (s, n) := readQuoted cs
      (c :: s, n + 1)

/-- The characters of an error literal, which an exclamation or question mark ends. -/
def errorLength : List Char → Nat
  | [] => 0
  | c :: cs =>
    if c = '!' ∨ c = '?' then 1
    else if Text.isAsciiAlphanumeric c || c == '/' then errorLength cs + 1
    else 0

/-- A sheet name in apostrophes, two of them standing for one; none if it is not closed. -/
def readQuotedSheet? : List Char → Option (List Char × Nat)
  | [] => none
  | '\'' :: '\'' :: cs => (readQuotedSheet? cs).map fun (s, n) => ('\'' :: s, n + 2)
  | c :: cs =>
    if c = '\'' then some ([], 1)
    else (readQuotedSheet? cs).map fun (s, n) => (c :: s, n + 1)

/-- The characters of an exponent; a letter `e` without digits after it is none. -/
def exponentLength : List Char → Nat
  | e :: cs =>
    let signs := match cs with
      | '+' :: _ | '-' :: _ => 1
      | _ => 0
    let digits := (cs.drop signs).takeWhile Char.isDigit
    if (e = 'e' ∨ e = 'E') ∧ digits ≠ [] then 1 + signs + digits.length else 0
  | [] => 0

/-- The characters of a number: digits, a point with digits, an exponent. -/
def numberLength (cs : List Char) : Nat :=
  let whole := (cs.takeWhile Char.isDigit).length
  let fraction := match cs.drop whole with
    | '.' :: rest => 1 + (rest.takeWhile Char.isDigit).length
    | _ => 0
  whole + fraction + exponentLength (cs.drop (whole + fraction))

/-- A character of a name. -/
def isNameChar (c : Char) : Bool := Text.isLetterOrNumber c || c == '_' || c == '$' || c == '.'

/-- A character of an address. -/
def isAddressChar (c : Char) : Bool := Text.isAsciiAlphanumeric c || c == '$'

/-- A token of unknown kind from its first character and the number of characters after it. -/
def unknownToken (c : Char) (cs : List Char) (n : Nat) : TokenKind × Nat :=
  (.unknown (String.ofList (c :: cs.take n)), n)

/-- The address after the name of a sheet. The token starts with `c`, and `n` of the characters
    after it have gone by, the exclamation mark last. -/
def readQualified (c : Char) (cs : List Char) (sheet : List Char) (n : Nat) : TokenKind × Nat :=
  let letters := (cs.drop n).takeWhile isAddressChar
  let total := n + letters.length
  match CellRef.readChars letters with
  | .ok address =>
    if looksLikeCell letters then (.cell (some (String.ofList sheet)) address, total)
    else unknownToken c cs total
  | .error _ => unknownToken c cs total

/-- A token that starts with an apostrophe: the quoted name of a sheet and an address on it. -/
def readSheetToken (cs : List Char) : TokenKind × Nat :=
  match readQuotedSheet? cs with
  | none => unknownToken '\'' cs cs.length
  | some (sheet, n) =>
    match cs.drop n with
    | '!' :: _ => readQualified '\'' cs sheet (n + 1)
    | _ => unknownToken '\'' cs n

/-- A token that starts like a name: a name, a cell address, or the name of a sheet with an address
    on it. In front of a parenthesis it is a name even if it looks like an address. -/
def readNameToken (c : Char) (cs : List Char) : TokenKind × Nat :=
  let rest := cs.takeWhile isNameChar
  let n := rest.length
  let word := c :: rest
  let asName := (TokenKind.name (String.ofList word), n)
  match cs.drop n with
  | '!' :: _ => readQualified c cs word (n + 1)
  | '(' :: _ => asName
  | _ =>
    if looksLikeCell word then
      match CellRef.readChars word with
      | .ok address => (.cell none address, n)
      | .error _ => asName
    else asName

/-- A token that starts with a number sign: an error literal. -/
def readErrorToken (cs : List Char) : TokenKind × Nat :=
  let n := errorLength cs
  match ErrorValue.ofLiteral? (String.ofList ('#' :: cs.take n)) with
  | some e => (.error e, n)
  | none => unknownToken '#' cs n

/-- A token that starts like a number. -/
def readNumberToken (c : Char) (cs : List Char) : TokenKind × Nat :=
  let n := numberLength (c :: cs) - 1
  match Decimal.read? (c :: cs.take n) with
  | some x => (.number x, n)
  | none => unknownToken c cs n

/-! ## 2. One token -/

/-- A letter of any script, an underscore or a dollar sign starts a name. -/
def startsName (c : Char) : Bool := Text.isLetter c || c == '_' || c == '$'

/-- A digit starts a number, and so does a point in front of a digit. -/
def startsNumber (c : Char) (cs : List Char) : Bool :=
  c.isDigit || (c == '.' && (cs.head?.map Char.isDigit).getD false)

/-- The token that starts with `c`, and how many of the characters `cs` after it belong to it. -/
def readToken (c : Char) (cs : List Char) : TokenKind × Nat :=
  match c, cs with
  | '=', _ => (.equals, 0)
  | '+', _ => (.plus, 0)
  | '-', _ => (.minus, 0)
  | '*', _ => (.star, 0)
  | '/', _ => (.slash, 0)
  | '&', _ => (.ampersand, 0)
  | ':', _ => (.colon, 0)
  | ',', _ => (.comma, 0)
  | '(', _ => (.openParen, 0)
  | ')', _ => (.closeParen, 0)
  | '<', '=' :: _ => (.lessEqual, 1)
  | '<', '>' :: _ => (.notEqual, 1)
  | '<', _ => (.less, 0)
  | '>', '=' :: _ => (.greaterEqual, 1)
  | '>', _ => (.greater, 0)
  | '"', _ =>
    let (s, n) := readQuoted cs
    (.text (String.ofList s), n)
  | '#', _ => readErrorToken cs
  | '\'', _ => readSheetToken cs
  | c, cs =>
    if startsNumber c cs then readNumberToken c cs
    else if startsName c then readNameToken c cs
    else unknownToken c cs 0

/-! ## 3. The whole text -/

/-- Cuts a text that starts at a byte offset into its tokens, and gives the mark of the end
    apart. -/
def scanFrom (offset : Nat) (cs : List Char) : List Token × Token :=
  let gap := cs.takeWhile Text.isBlank
  let start := offset + byteLength gap
  match _h : cs.dropWhile Text.isBlank with
  | [] => ([], { kind := .finish, gap, source := [], start })
  | c :: rest =>
    let n := (readToken c rest).2
    let token : Token := { kind := (readToken c rest).1, gap, source := c :: rest.take n, start }
    let (tokens, finish) := scanFrom token.stop (rest.drop n)
    (token :: tokens, finish)
termination_by cs.length
decreasing_by
  have h1 := (List.dropWhile_suffix (l := cs) Text.isBlank).length_le
  rw [_h] at h1
  simp only [List.length_drop, List.length_cons] at *
  omega

/-- The tokens of a formula, and the mark of its end. -/
def scan (cs : List Char) : List Token × Token := scanFrom 0 cs

/-- The tokens of a formula with the mark of its end as the last of them. -/
def tokenize (formula : String) : List Token :=
  let (tokens, finish) := scan formula.toList
  tokens ++ [finish]

/-- The tokens with the blanks in front of them are the text. -/
theorem chars_scanFrom (offset : Nat) (cs : List Char) :
    (scanFrom offset cs).1.flatMap Token.chars ++ (scanFrom offset cs).2.chars = cs := by
  fun_induction scanFrom offset cs with
  | case1 offset cs gap start h =>
    have e := List.takeWhile_append_dropWhile (p := Text.isBlank) (l := cs)
    rw [h, List.append_nil] at e
    simp only [List.flatMap_nil, List.nil_append, Token.chars, List.append_nil]
    exact e
  | case2 offset cs gap start c rest h n token tokens finish hs ih =>
    have e := List.takeWhile_append_dropWhile (p := Text.isBlank) (l := cs)
    rw [h] at e
    rw [hs] at ih
    simp only [List.flatMap_cons, List.append_assoc, ih]
    simpa [Token.chars, token, List.take_append_drop] using e

/-- Nothing of a formula is lost in its tokens. -/
theorem chars_scan (cs : List Char) :
    (scan cs).1.flatMap Token.chars ++ (scan cs).2.chars = cs := chars_scanFrom 0 cs

end Gridcalc
