import Gridcalc.Formula.Expr
import Gridcalc.Text.Wildcard
import Gridcalc.Value.Coercion
import Gridcalc.Value.Order

/-!
# Criteria

The conditions that the conditional functions put on cells: a value to be equal to, or a text that
starts with a comparison.

* `Criterion.ofValue` reads a criterion, `Criterion.admits` tests a value;
* blank criteria match blank cells, numbers compare with numbers only, texts by small letters, and
  texts with wildcards as patterns.
-/

namespace Gridcalc

/-- A condition on the value of a cell. -/
inductive Criterion where
  | number (op : Operator) (x : Float)
  | boolean (op : Operator) (b : Bool)
  /-- A text in small letters. -/
  | text (op : Operator) (small : List Char)
  | pattern (negated : Bool) (pattern : Text.Pattern)
  | blank (negated : Bool)
  deriving Repr

namespace Criterion

/-- The comparison that a criterion starts with, and what follows it. -/
def takeComparison : List Char → Operator × List Char
  | '>' :: '=' :: cs => (.greaterEqual, cs)
  | '<' :: '=' :: cs => (.lessEqual, cs)
  | '<' :: '>' :: cs => (.notEqual, cs)
  | '>' :: cs => (.greater, cs)
  | '<' :: cs => (.less, cs)
  | '=' :: cs => (.equal, cs)
  | cs => (.equal, cs)

/-- The truth value that a word names. -/
def truthValue? (cs : List Char) : Option Bool :=
  let word := String.ofList cs
  if Text.sameIgnoringCase word "TRUE" then some true
  else if Text.sameIgnoringCase word "FALSE" then some false
  else none

/-- The condition of comparing with what a text says. Only equality and its negation look for
    patterns. -/
def ofOperand (op : Operator) (rest : List Char) : Criterion :=
  if rest.isEmpty then .blank (op == .notEqual)
  else
    match readNumber? (Text.trim rest), truthValue? rest with
    | some x, _ => .number op x
    | none, some b => .boolean op b
    | none, none =>
      if (op == .equal || op == .notEqual) && Text.hasWildcards rest then
        .pattern (op == .notEqual) (Text.Pattern.ofChars rest)
      else .text op (Text.lowercase rest)

/-- The condition that a text stands for. -/
def ofChars (cs : List Char) : Criterion :=
  let (op, rest) := takeComparison cs
  ofOperand op rest

/-- The condition that a value stands for. -/
def ofValue : Value → Criterion
  | .number x => .number .equal x
  | .date t => .number .equal t.serial
  | .boolean b => .boolean .equal b
  | .text s => ofChars s.toList
  | .empty => .blank false
  | .error e => .text .equal e.literal.toList

/-- Whether a value satisfies a condition. A value of another kind than the condition compares with
    satisfies inequality only. -/
def admits : Criterion → Value → Bool
  | .blank negated, v => v.isBlank != negated
  | .number op x, v =>
    match v.number? with
    | some y => op.holds (compareNumbers y x)
    | none => op == .notEqual
  | .boolean op b, v =>
    match v with
    | .boolean a => op.holds (Ord.compare a b)
    | _ => op == .notEqual
  | .text op small, v =>
    match v with
    | .text s => op.holds (Ord.compare (Text.lowercase s.toList) small)
    | .error e => op.holds (Ord.compare (Text.lowercase e.literal.toList) small)
    | _ => op == .notEqual
  | .pattern negated p, v =>
    match v with
    | .text s => p.covers s.toList != negated
    | _ => negated

end Criterion

end Gridcalc
