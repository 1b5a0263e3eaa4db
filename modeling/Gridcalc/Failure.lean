import Gridcalc.Address.Basic

/-!
# Failures

Why an operation on addresses, sheets or workbooks can be refused. Formula evaluation never fails
in this way: what goes wrong in a formula is an error value.

* `Failure` with its causes, and `Failure.message`, their wording.
-/

namespace Gridcalc

/-! ## 1. Causes -/

/-- Why a text is no cell address. -/
inductive AddressFault where
  | empty
  | noColumn (text : String)
  | emptyLetters
  | tooWide (letters : String)
  | badLetter (c : Char)
  | badRow (text : String)
  | rowZero (text : String)
  deriving DecidableEq, Repr

/-- Why an extent of rows, columns or cells is refused. -/
inductive RangeFault where
  | rowsBeyond (start stop count : Nat)
  | columnsBeyond (start stop count : Nat)
  | everyRow
  | everyColumn
  | beyondSheet (range : RangeRef)
  | sortBeyondSheet (range : RangeRef) (sheet : String)
  | keyOutside (key : Nat) (range : RangeRef)
  | pasteBeyondSheet (corner : CellRef) (sheet : String)
  deriving DecidableEq, Repr

/-- Why a text is no name for a sheet. -/
inductive SheetNameFault where
  | empty
  | tooLong
  | badCharacter (c : Char)
  deriving DecidableEq, Repr

/-- Why an operation is refused. -/
inductive Failure where
  | invalidAddress (fault : AddressFault)
  | invalidRange (fault : RangeFault)
  | rowOutOfBounds (row last : Nat)
  | columnOutOfBounds (column last : Nat)
  | sheetOutOfBounds (index count : Nat)
  | sheetNotFound (name : String)
  | invalidSheetName (fault : SheetNameFault)
  | duplicateSheetName (name : String)
  | batchInProgress (sheet : String)
  | lastSheet
  | notExecuted
  deriving DecidableEq, Repr

/-- The most characters the name of a sheet can have. -/
def maxSheetName : Nat := 31

/-! ## 2. Wording -/

def AddressFault.message : AddressFault → String
  | .empty => "empty address"
  | .noColumn s => s!"no column letters in '{s}'"
  | .emptyLetters => "empty column letters"
  | .tooWide s => s!"column '{s}' too wide"
  | .badLetter c => s!"invalid column letter '{c}'"
  | .badRow s => s!"invalid row number in '{s}'"
  | .rowZero s => s!"row number must be >= 1 in '{s}'"

def RangeFault.message : RangeFault → String
  | .rowsBeyond start stop n => s!"cannot delete rows {start}..{stop} of {n}"
  | .columnsBeyond start stop n => s!"cannot delete columns {start}..{stop} of {n}"
  | .everyRow => "cannot delete every row"
  | .everyColumn => "cannot delete every column"
  | .beyondSheet range => range.text
  | .sortBeyondSheet range sheet => s!"{range.text} is outside sheet '{sheet}'"
  | .keyOutside key range => s!"sort key column {key} is outside {range.text}"
  | .pasteBeyondSheet corner sheet => s!"paste at {corner.text} does not fit sheet '{sheet}'"

def SheetNameFault.message : SheetNameFault → String
  | .empty => "Sheet name cannot be empty"
  | .tooLong => s!"Sheet name too long (max {maxSheetName} characters)"
  | .badCharacter c => s!"Sheet name cannot contain '{c}'"

/-- The wording of a failure. -/
def Failure.message : Failure → String
  | .invalidAddress fault => s!"Invalid cell address: {fault.message}"
  | .invalidRange fault => s!"Invalid cell range: {fault.message}"
  | .rowOutOfBounds row last => s!"Row index {row} out of bounds (max: {last})"
  | .columnOutOfBounds column last => s!"Column index {column} out of bounds (max: {last})"
  | .sheetOutOfBounds index count => s!"Sheet index {index} out of bounds (count: {count})"
  | .sheetNotFound name => s!"Sheet not found: {name}"
  | .invalidSheetName fault => s!"Invalid sheet name: {fault.message}"
  | .duplicateSheetName name => s!"Sheet name already exists: {name}"
  | .batchInProgress sheet => s!"Sheet '{sheet}' already has an update batch in progress"
  | .lastSheet => "cannot remove the last sheet"
  | .notExecuted => "command has not been executed"

end Gridcalc
