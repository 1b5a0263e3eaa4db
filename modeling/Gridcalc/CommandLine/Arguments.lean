import Gridcalc.Number.Binary

/-!
# Command lines

The words of a command line as one of the five things that the program can be asked for.

* `Invocation` is what the program is asked for, `Invocation.read?` reads it from the words;
* `Flag` lists the options and which of them take a value.

Options stand anywhere after the verb and are written `--name value`, `--name=value`, `-n value`,
`-nvalue` or `-n=value`; `--` ends them. Anything else is refused.
-/

namespace Gridcalc

/-! ## 1. What can be asked for -/

/-- What the program is asked for. -/
inductive Invocation where
  /-- The value of a formula at a place, after some cells were set; with a list of all cells. -/
  | eval (formula : String) (assignments : List String) (place : String) (dump : Bool)
  | tokens (formula : String)
  | parse (formula : String)
  /-- The function call around a caret, counted in characters. -/
  | hint (formula : String) (caret : Option Nat)
  | functions
  deriving DecidableEq, Repr

inductive Verb where
  | eval
  | tokens
  | parse
  | hint
  | functions
  deriving DecidableEq, Repr

def Verb.ofWord? : String → Option Verb
  | "eval" => some .eval
  | "tokens" => some .tokens
  | "parse" => some .parse
  | "hint" => some .hint
  | "functions" => some .functions
  | _ => none

inductive Flag where
  | set
  | place
  | dump
  | caret
  | verbose
  deriving DecidableEq, Repr

namespace Flag

def ofLong? : String → Option Flag
  | "set" => some .set
  | "at" => some .place
  | "dump" => some .dump
  | "caret" => some .caret
  | "verbose" => some .verbose
  | _ => none

def ofShort? : Char → Option Flag
  | 's' => some .set
  | 'a' => some .place
  | 'c' => some .caret
  | 'v' => some .verbose
  | _ => none

def takesValue : Flag → Bool
  | .set | .place | .caret => true
  | .dump | .verbose => false

/-- Whether an option goes with a verb. -/
def fits : Flag → Verb → Bool
  | .verbose, _ => true
  | .caret, verb => verb = .hint
  | _, verb => verb = .eval

end Flag

/-! ## 2. Words and options -/

/-- A part of a command line. -/
inductive Item where
  | word (s : String)
  | flag (flag : Flag)
  | option (flag : Flag) (value : String)
  deriving DecidableEq, Repr

/-- What one word begins: some items, and perhaps an option whose value is the next word. -/
structure Opening where
  items : List Item
  awaiting : Option Flag := none

/-- Whether a word is read as options: it starts with a dash and goes on. -/
def isOptionWord (cs : List Char) : Bool :=
  match cs with
  | '-' :: _ :: _ => true
  | _ => false

/-- Reads the options of a word with one dash. The rest of the word is the value of the first option
    that takes one. -/
def readShort? : List Char → Option Opening
  | [] => some { items := [] }
  | c :: cs =>
    match Flag.ofShort? c with
    | none => none
    | some flag =>
      if flag.takesValue then
        match cs with
        | [] => some { items := [], awaiting := some flag }
        | '=' :: value => some { items := [.option flag (String.ofList value)] }
        | value => some { items := [.option flag (String.ofList value)] }
      else (readShort? cs).map fun opening =>
        { opening with items := .flag flag :: opening.items }

/-- Reads the option of a word with two dashes. -/
def readLong? (cs : List Char) : Option Opening :=
  let name := cs.takeWhile (· ≠ '=')
  match Flag.ofLong? (String.ofList name), cs.drop name.length with
  | none, _ => none
  | some flag, [] =>
    some (if flag.takesValue then { items := [], awaiting := some flag }
      else { items := [.flag flag] })
  | some flag, _ :: value =>
    if flag.takesValue then some { items := [.option flag (String.ofList value)] } else none

/-- Reads one word. -/
def readWord? (cs : List Char) : Option Opening :=
  match cs with
  | '-' :: '-' :: cs => readLong? cs
  | '-' :: c :: cs => readShort? (c :: cs)
  | cs => some { items := [.word (String.ofList cs)] }

/-- Reads the words of a command line; after a double dash every word is taken as it is. -/
def readItems? : List String → Option (List Item)
  | [] => some []
  | "--" :: words => some (words.map .word)
  | word :: words =>
    match readWord? word.toList with
    | none => none
    | some { items, awaiting := none } => (readItems? words).map (items ++ ·)
    | some { items, awaiting := some flag } =>
      match words with
      | [] => none
      | value :: words =>
        if isOptionWord value.toList then none
        else (readItems? words).map fun rest => items ++ .option flag value :: rest

/-! ## 3. Invocations -/

/-- The words that are no options. -/
def wordsOf (items : List Item) : List String :=
  items.filterMap fun | .word s => some s | _ => none

/-- The values of an option in order. -/
def valuesOf (flag : Flag) (items : List Item) : List String :=
  items.filterMap fun | .option f value => if f = flag then some value else none | _ => none

/-- The option that an item is. -/
def Item.flag? : Item → Option Flag
  | .word _ => none
  | .flag f => some f
  | .option f _ => some f

/-- Whether the options go with a verb, each of them once; only cells are set any number of
    times. -/
def areFitting (verb : Verb) (items : List Item) : Bool :=
  let flags := items.filterMap Item.flag?
  flags.all fun flag => flag.fits verb && (flag == .set || flags.count flag ≤ 1)

/-- A natural number of at most 64 bits in decimal digits, with or without a plus sign. -/
def readCaret? (s : String) : Option Nat :=
  let digits := match s.toList with
    | '+' :: cs => cs
    | cs => cs
  if digits.isEmpty || !digits.all Char.isDigit then none
  else
    let n := digits.foldl (fun n c => n * 10 + (c.toNat - '0'.toNat)) 0
    if n < twoTo 64 then some n else none

/-- What the items after a verb ask for. -/
def Invocation.ofItems? (verb : Verb) (items : List Item) : Option Invocation :=
  if !areFitting verb items then none
  else
    match verb, wordsOf items with
    | .eval, [formula] =>
      some (.eval formula (valuesOf .set items) ((valuesOf .place items).headD "A1")
        (items.contains (.flag .dump)))
    | .tokens, [formula] => some (.tokens formula)
    | .parse, [formula] => some (.parse formula)
    | .hint, [formula] =>
      match valuesOf .caret items with
      | [] => some (.hint formula none)
      | s :: _ => (readCaret? s).map fun n => .hint formula (some n)
    | .functions, [] => some .functions
    | _, _ => none

/-- Reads a command line. Only the option of being verbose may stand in front of the verb. -/
def Invocation.read? (words : List String) : Option Invocation :=
  match words with
  | [] => none
  | word :: words =>
    match Verb.ofWord? word, words with
    | some verb, words => (readItems? words).bind (Invocation.ofItems? verb)
    | none, word' :: words =>
      if word == "-v" || word == "--verbose" then
        (Verb.ofWord? word').bind fun verb =>
          (readItems? words).bind (Invocation.ofItems? verb)
      else none
    | none, [] => none

end Gridcalc
