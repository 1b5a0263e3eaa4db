import Gridcalc.Builtin.Dates
import Gridcalc.Builtin.Logic
import Gridcalc.Builtin.Lookup
import Gridcalc.Builtin.Summary
import Gridcalc.Builtin.Texts
import Gridcalc.Formula.CallHint

/-!
# The built-in functions

The table of all functions by name, with the number and kinds of their arguments.

* `Builtin` describes a function and holds its definition; `Builtin.accepts` and `Builtin.kindAt`
  say what arguments it takes;
* `findBuiltin?` looks a name up, ASCII case aside;
* `functionHint?` names the function around a caret.
-/

namespace Gridcalc

/-! ## 1. Descriptions -/

/-- How an argument reaches a function. -/
inductive ArgKind where
  /-- As a single value; a rectangle of one cell is its value. -/
  | scalar
  /-- References as rectangles, and nothing else is of use. -/
  | range
  /-- References as rectangles, anything else as a value. -/
  | any
  deriving DecidableEq, Repr, Inhabited

/-- A built-in function. -/
structure Builtin where
  name : String
  minArgs : Nat
  /-- None for a function that takes any number of arguments. -/
  maxArgs : Option Nat
  /-- The kind of each argument; the last one holds for all further ones. -/
  kinds : List ArgKind
  /-- Whether it has to be evaluated again on every recalculation. -/
  isVolatile : Bool := false
  run : List Arg → Context → Outcome Value

namespace Builtin

/-- Whether the function takes so many arguments. -/
def accepts (f : Builtin) (n : Nat) : Bool :=
  f.minArgs ≤ n && (match f.maxArgs with
    | some most => n ≤ most
    | none => true)

/-- The kind of an argument. -/
def kindAt (f : Builtin) (i : Nat) : ArgKind :=
  (f.kinds[i]? <|> f.kinds.getLast?).getD .scalar

end Builtin

/-! ## 2. The table -/

open Builtin ArgKind

/-- A function of single values. -/
def scalarBuiltin (name : String) (least : Nat) (most : Option Nat)
    (run : List Arg → Context → Outcome Value) : Builtin :=
  ⟨name, least, most, [.scalar], false, run⟩

/-- A function of any number of values and rectangles. -/
def flatBuiltin (name : String) (run : List Arg → Context → Outcome Value) : Builtin :=
  ⟨name, 1, none, [.any], false, run⟩

/-- A function that gives another result each time. -/
def volatileBuiltin (name : String) (count : Nat) (run : List Arg → Context → Outcome Value) :
    Builtin :=
  ⟨name, count, some count, [.scalar], true, run⟩

def arithmeticBuiltins : List Builtin :=
  [flatBuiltin "SUM" sum,
    flatBuiltin "PRODUCT" productOfAll,
    scalarBuiltin "ABS" 1 (some 1) absolute,
    scalarBuiltin "MOD" 2 (some 2) remainder,
    scalarBuiltin "INT" 1 (some 1) integerBelow,
    scalarBuiltin "ROUND" 2 (some 2) round,
    scalarBuiltin "ROUNDUP" 2 (some 2) roundUp,
    scalarBuiltin "ROUNDDOWN" 2 (some 2) roundDown,
    scalarBuiltin "TRUNC" 1 (some 2) roundDown,
    ⟨"SUMIF", 2, some 3, [range, scalar, range], false, sumIf⟩,
    volatileBuiltin "RAND" 0 random,
    volatileBuiltin "RANDBETWEEN" 2 randomBetween]

def summaryBuiltins : List Builtin :=
  [flatBuiltin "AVERAGE" average,
    flatBuiltin "MIN" minimum,
    flatBuiltin "MAX" maximum,
    flatBuiltin "COUNT" count,
    flatBuiltin "COUNTA" countAll,
    ⟨"COUNTBLANK", 1, some 1, [range], false, countBlank⟩,
    flatBuiltin "MEDIAN" median,
    ⟨"LARGE", 2, some 2, [any, scalar], false, large⟩,
    ⟨"SMALL", 2, some 2, [any, scalar], false, small⟩,
    ⟨"COUNTIF", 2, some 2, [range, scalar, range], false, countIf⟩,
    ⟨"AVERAGEIF", 2, some 3, [range, scalar, range], false, averageIf⟩,
    ⟨"SUBTOTAL", 2, none, [scalar, range], false, subtotal⟩,
    ⟨"AGGREGATE", 3, none, [scalar, scalar, any], false, aggregate⟩]

def logicBuiltins : List Builtin :=
  [scalarBuiltin "IF" 2 (some 3) choose,
    scalarBuiltin "IFERROR" 2 (some 2) insteadOfError,
    flatBuiltin "AND" conjunction,
    flatBuiltin "OR" disjunction,
    scalarBuiltin "NOT" 1 (some 1) negation,
    scalarBuiltin "CHOOSE" 2 none chooseByNumber,
    scalarBuiltin "ISBLANK" 1 (some 1) (isOfKind Value.isEmpty),
    scalarBuiltin "ISNUMBER" 1 (some 1) (isOfKind Value.isNumeric),
    scalarBuiltin "ISTEXT" 1 (some 1) (isOfKind Value.isText),
    scalarBuiltin "ISERROR" 1 (some 1) (isOfKind Value.isError),
    scalarBuiltin "ISNA" 1 (some 1) (isOfKind isNotAvailable)]

def lookupBuiltins : List Builtin :=
  [⟨"VLOOKUP", 3, some 4, [scalar, range, scalar], false, tableLookup false⟩,
    ⟨"HLOOKUP", 3, some 4, [scalar, range, scalar], false, tableLookup true⟩,
    ⟨"MATCH", 2, some 3, [scalar, range, scalar], false, matchPlace⟩,
    ⟨"XLOOKUP", 3, some 6, [scalar, range, range, scalar], false, parallelLookup⟩,
    ⟨"INDEX", 1, some 3, [range, scalar], false, index⟩,
    ⟨"ROW", 0, some 1, [range], false, rowNumber⟩,
    ⟨"ROWS", 1, some 1, [range], false, rowsOf⟩,
    ⟨"COLUMN", 0, some 1, [range], false, columnNumber⟩,
    ⟨"COLUMNS", 1, some 1, [range], false, columnsOf⟩]

def textBuiltins : List Builtin :=
  [scalarBuiltin "LEFT" 1 (some 2) leftEnd,
    scalarBuiltin "RIGHT" 1 (some 2) rightEnd,
    scalarBuiltin "MID" 3 (some 3) middle,
    scalarBuiltin "LEN" 1 (some 1) length,
    scalarBuiltin "FIND" 2 (some 3) find,
    scalarBuiltin "SEARCH" 2 (some 3) search,
    scalarBuiltin "SUBSTITUTE" 3 (some 4) substitute,
    scalarBuiltin "REPLACE" 4 (some 4) replace,
    scalarBuiltin "TRIM" 1 (some 1) trimSpaces,
    scalarBuiltin "PROPER" 1 (some 1) (convertText (properCase false)),
    scalarBuiltin "UPPER" 1 (some 1) (convertText Text.uppercase),
    scalarBuiltin "LOWER" 1 (some 1) (convertText Text.lowercase),
    scalarBuiltin "REPT" 2 (some 2) repeatText,
    scalarBuiltin "TEXT" 2 (some 2) textWithPicture,
    ⟨"TEXTJOIN", 3, none, [scalar, scalar, any], false, joinTexts⟩,
    flatBuiltin "CONCAT" concatAll,
    scalarBuiltin "CONCATENATE" 1 none concatScalars]

def dateBuiltins : List Builtin :=
  [volatileBuiltin "TODAY" 0 today,
    volatileBuiltin "NOW" 0 now,
    scalarBuiltin "DATE" 3 (some 3) dateOfParts,
    scalarBuiltin "YEAR" 1 (some 1) (civilPart fun (y, _, _) => y),
    scalarBuiltin "MONTH" 1 (some 1) (civilPart fun (_, m, _) => m),
    scalarBuiltin "DAY" 1 (some 1) (civilPart fun (_, _, d) => d),
    scalarBuiltin "HOUR" 1 (some 1) (clockPart fun s => s / 3600),
    scalarBuiltin "MINUTE" 1 (some 1) (clockPart fun s => s / 60 % 60),
    scalarBuiltin "SECOND" 1 (some 1) (clockPart fun s => s % 60),
    scalarBuiltin "WEEKDAY" 1 (some 2) weekday,
    scalarBuiltin "WEEKNUM" 1 (some 2) weekNumber,
    scalarBuiltin "VALUE" 1 (some 1) valueOfText]

/-- All built-in functions. -/
def builtins : List Builtin :=
  arithmeticBuiltins ++ summaryBuiltins ++ logicBuiltins ++ lookupBuiltins ++ textBuiltins ++
    dateBuiltins

/-! ## 3. Looking functions up -/

/-- The function with a name. -/
def findBuiltin? (name : String) : Option Builtin :=
  let capitals := Text.asciiCapitals name
  builtins.find? fun f => f.name == capitals

/-- The names of all functions in order. -/
def builtinNames : List String := (builtins.map Builtin.name).mergeSort fun a b => decide (a ≤ b)

/-- Whether a name is the name of a function that gives another result each time. -/
def isVolatileName (name : String) : Bool := ((findBuiltin? name).map Builtin.isVolatile).getD false

/-- Whether a formula has to be evaluated again on every recalculation. -/
def Expr.isVolatile (e : Expr) : Bool := e.functionNames.any isVolatileName

/-- The call around a caret with its function, where the name is known. -/
def functionHint? (formula : String) (caret : Nat) : Option (CallHint × Option Builtin) :=
  (callHint? formula caret).map fun hint => (hint, findBuiltin? hint.name)

end Gridcalc
