import Gridcalc.Formula.Diagnostic
import Gridcalc.Formula.Scan
import Gridcalc.Text.Case

/-!
# Reading formulas

Tokens become a tree. From the weakest binding to the strongest: comparisons, joining of texts,
sums, products, ranges, and single operands. Reading never gives up: a malformed formula yields the
best tree that could be built together with diagnostics, at most one for each token.

* `chain` reads operands of one strength joined by operators of that strength;
* `operandWith` reads a single operand, `operand` bounds how deeply groups and calls nest;
* `parseFormula` reads a formula and `parseReference` a bare reference.
-/

namespace Gridcalc

/-- How deeply groups and calls may nest. -/
def maxNesting : Nat := 64

/-- How many operators a formula may have. -/
def maxOperators : Nat := 1024

/-! ## 1. The state of reading -/

/-- The tokens still to be read, and what has been found so far. -/
structure ParseState where
  rest : List Token
  finish : Token
  diagnostics : List Diagnostic := []
  /-- How many tokens were left at the last diagnostic. -/
  reported : Option Nat := none
  operators : Nat := 0
  deriving Inhabited

namespace ParseState

/-- The state in front of a text. -/
def ofChars (cs : List Char) : ParseState :=
  let (rest, finish) := scan cs
  { rest, finish }

/-- The token in front. -/
def head (s : ParseState) : Token := s.rest.headD s.finish

/-- The kind of the token in front. -/
def current (s : ParseState) : TokenKind := s.head.kind

/-- Steps over the token in front; the end stays. -/
def consume (s : ParseState) : ParseState := { s with rest := s.rest.tail }

/-- Adds a diagnostic for the token in front, unless it has one. -/
def report (s : ParseState) (fault : ParseFault) : ParseState :=
  if s.reported = some s.rest.length then s
  else
    { s with
      diagnostics := s.diagnostics ++ [⟨s.current, s.head.start, fault⟩]
      reported := some s.rest.length }

/-- Reports the token in front and leaves out everything up to the end. -/
def abandon (s : ParseState) (fault : ParseFault) : ParseState :=
  { s.report fault with rest := [], reported := some 0 }

/-- What is left of some tokens at the next comma or closing parenthesis outside any group. -/
def skipTokens : Nat → List Token → List Token
  | _, [] => []
  | depth, t :: ts =>
    match t.kind, depth with
    | .comma, 0 | .closeParen, 0 => t :: ts
    | .openParen, depth => skipTokens (depth + 1) ts
    | .closeParen, depth + 1 => skipTokens depth ts
    | _, depth => skipTokens depth ts

/-- Steps over what is left of an argument. -/
def skipArgument (s : ParseState) : ParseState := { s with rest := skipTokens 0 s.rest }

/-- Counts an operator and steps over it. -/
def passOperator (s : ParseState) : ParseState :=
  { s.consume with operators := s.operators + 1 }

@[simp] theorem rest_report (s : ParseState) (fault : ParseFault) :
    (s.report fault).rest = s.rest := by
  unfold report; split <;> rfl

theorem length_skipTokens_le (depth : Nat) (ts : List Token) :
    (skipTokens depth ts).length ≤ ts.length := by
  fun_induction skipTokens depth ts <;> simp_all <;> omega

end ParseState

/-- A reader of a part of a formula: the tree it found, if any, and the state after it. -/
abbrev Parser := ParseState → Option Expr × ParseState

/-! ## 2. Operators -/

/-- Goes on reading operators and right operands behind `left`. Each round takes an operator, so
    as many rounds as there are tokens are enough. -/
def extendChain (ops : TokenKind → Option Operator) (operand : Parser) :
    Nat → Expr → ParseState → Option Expr × ParseState
  | 0, left, s => (some left, s)
  | n + 1, left, s =>
    match ops s.current with
    | none => (some left, s)
    | some op =>
      if maxOperators ≤ s.operators then (some left, s.abandon .tooManyOperators)
      else
        match operand s.passOperator with
        | (none, s) => (some left, s)
        | (some right, s) => extendChain ops operand n (.binary op left right) s

/-- Operands joined by operators of one strength, from the left. -/
def chain (ops : TokenKind → Option Operator) (operand : Parser) : Parser := fun s =>
  match operand s with
  | (none, s) => (none, s)
  | (some left, s) => extendChain ops operand s.rest.length left s

def comparisonOf : TokenKind → Option Operator
  | .equals => some .equal
  | .notEqual => some .notEqual
  | .less => some .less
  | .lessEqual => some .lessEqual
  | .greater => some .greater
  | .greaterEqual => some .greaterEqual
  | _ => none

def joinOf : TokenKind → Option Operator
  | .ampersand => some .concat
  | _ => none

def sumOf : TokenKind → Option Operator
  | .plus => some .add
  | .minus => some .subtract
  | _ => none

def productOf : TokenKind → Option Operator
  | .star => some .multiply
  | .slash => some .divide
  | _ => none

/-! ## 3. Ranges -/

/-- Whether the second corner of a range may name this sheet: it names none, or the one that the
    first corner names. -/
def cornersAgree : Option String → Option String → Bool
  | _, none => true
  | some a, some b => Text.sameIgnoringCase a b
  | none, some _ => false

/-- An operand, and after a colon the second corner of a range. -/
def ranged (operand : Parser) : Parser := fun s =>
  match operand s with
  | (none, s) => (none, s)
  | (some left, s) =>
    match s.current, left with
    | .colon, .cell sheet first =>
      let s := s.consume
      match s.current with
      | .cell sheet' second =>
        if cornersAgree sheet sheet' then (some (.range sheet ⟨first, second⟩), s.consume)
        else (some left, (s.report .cornersOnTwoSheets).consume)
      | _ => (some left, s.report .noCellAfterColon)
    | .colon, _ => (some left, s.report .colonAfterNoCell)
    | _, _ => (some left, s)

/-! ## 4. Operands -/

/-- A whole expression over single operands. -/
def expression (operand : Parser) : Parser :=
  chain comparisonOf (chain joinOf (chain sumOf (chain productOf (ranged operand))))

/-- The arguments of a call up to its closing parenthesis. Each round but the last takes a comma,
    so one round more than there are tokens is enough. -/
def arguments (inner : Parser) : Nat → List Expr → ParseState → List Expr × ParseState
  | 0, args, s => (args, s)
  | n + 1, args, s =>
    let (args, s) := match inner s with
      | (some e, s) => (args ++ [e], s)
      | (none, s) => (args, s.skipArgument)
    match s.current with
    | .comma => arguments inner n args s.consume
    | .closeParen => (args, s.consume)
    | .finish => (args, s.report .noSeparator)
    | _ =>
      let s := (s.report .noSeparator).skipArgument
      match s.current with
      | .comma => arguments inner n args s.consume
      | .closeParen => (args, s.consume)
      | _ => (args, s)

/-- A call whose name and opening parenthesis are in front. -/
def functionCall (inner : Parser) (name : String) (s : ParseState) : Expr × ParseState :=
  let capitals := String.ofList (Text.uppercase name.toList)
  let s := s.consume.consume
  match s.current with
  | .closeParen => (.call capitals [], s.consume)
  | _ =>
    let (args, s) := arguments inner (s.rest.length + 1) [] s
    (.call capitals args, s)

/-- A group whose opening parenthesis is in front. -/
def group (inner : Parser) : Parser := fun s =>
  let (e, s) := inner s.consume
  match s.current with
  | .closeParen => (e, s.consume)
  | _ => (e, s.report .unclosedGroup)

/-- A name that is not called: a truth value, or a name error. -/
def bareName (name : String) (s : ParseState) : Expr × ParseState :=
  if Text.sameIgnoringCase name "TRUE" then (.boolean true, s.consume)
  else if Text.sameIgnoringCase name "FALSE" then (.boolean false, s.consume)
  else (.error .name, (s.report .unknownName).consume)

/-- Whether the token after the one in front opens a parenthesis. -/
def opensCall (s : ParseState) : Bool := s.consume.current == .openParen

/-- A single operand. `inner` reads what stands in groups and calls; without it they are nested too
    deeply. -/
def operandWith (inner : Option Parser) : Parser := fun s =>
  match s.current, inner with
  | .number x, _ => (some (.number x), s.consume)
  | .text t, _ => (some (.text t), s.consume)
  | .error e, _ => (some (.error e), s.consume)
  | .cell sheet address, _ => (some (.cell sheet address), s.consume)
  | .openParen, some inner => group inner s
  | .openParen, none => (none, s.abandon .tooDeep)
  | .name name, inner =>
    if opensCall s then
      match inner with
      | some inner =>
        let (e, s) := functionCall inner name s
        (some e, s)
      | none => (none, s.abandon .tooDeep)
    else
      let (e, s) := bareName name s
      (some e, s)
  | .minus, _ | .plus, _ => (none, s.report .unarySign)
  | _, _ => (none, s.report .noOperand)

/-- A single operand in which groups and calls nest at most so many levels deep. -/
def operand : Nat → Parser
  | 0 => operandWith none
  | n + 1 => operandWith (some (expression (operand n)))

/-! ## 5. Formulas and references -/

/-- Reads a formula, which starts with an equals sign. -/
def parseFormula (formula : String) : ParsedFormula :=
  let s := ParseState.ofChars formula.toList
  match s.current with
  | .equals =>
    let (root, s) := expression (operand maxNesting) s.consume
    let s := if s.rest.isEmpty then s else s.report .trailing
    { root, diagnostics := s.diagnostics }
  | kind => { root := none, diagnostics := [⟨kind, 0, .noEqualsSign⟩] }

/-- Reads a bare reference; blanks around it do not count, and a cell is a range of one. -/
def parseReference (text : String) : Except FormulaFailure (Option String × RangeRef) :=
  let (e, s) := ranged (operand maxNesting) (ParseState.ofChars (Text.trim text.toList))
  let complete := s.diagnostics.isEmpty && s.rest.isEmpty
  match e, complete with
  | some (.range sheet range), true => .ok (sheet, range)
  | some (.cell sheet address), true => .ok (sheet, .single address)
  | _, _ => .error (.invalidReference text)

end Gridcalc
