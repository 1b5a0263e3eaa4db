import Gridcalc.Address.Basic
import Gridcalc.Address.Reading
import Gridcalc.Builtin.Argument
import Gridcalc.Builtin.Arithmetic
import Gridcalc.Builtin.Criterion
import Gridcalc.Builtin.Dates
import Gridcalc.Builtin.Logic
import Gridcalc.Builtin.Lookup
import Gridcalc.Builtin.Registry
import Gridcalc.Builtin.Summary
import Gridcalc.Builtin.Texts
import Gridcalc.Calendar.Date
import Gridcalc.Calendar.Layout
import Gridcalc.Calendar.Serial
import Gridcalc.CommandLine.Arguments
import Gridcalc.CommandLine.Assignment
import Gridcalc.CommandLine.Outline
import Gridcalc.CommandLine.Run
import Gridcalc.Dependency.Closure
import Gridcalc.Dependency.Graph
import Gridcalc.Dependency.Precedents
import Gridcalc.Dependency.Schedule
import Gridcalc.Evaluation.Context
import Gridcalc.Evaluation.Evaluate
import Gridcalc.Failure
import Gridcalc.Formula.CallHint
import Gridcalc.Formula.Diagnostic
import Gridcalc.Formula.Expr
import Gridcalc.Formula.Notation
import Gridcalc.Formula.Parse
import Gridcalc.Formula.Relocate
import Gridcalc.Formula.Scan
import Gridcalc.Formula.Token
import Gridcalc.Main
import Gridcalc.Number.Binary
import Gridcalc.Number.Decimal
import Gridcalc.Number.Statistics
import Gridcalc.Proofs.Address.Codec
import Gridcalc.Proofs.Address.Spelling
import Gridcalc.Proofs.Address.Traversal
import Gridcalc.Proofs.Builtin.Alike
import Gridcalc.Proofs.Builtin.CriterionSplit
import Gridcalc.Proofs.Builtin.DateParts
import Gridcalc.Proofs.Builtin.Faults
import Gridcalc.Proofs.Builtin.Finding
import Gridcalc.Proofs.Builtin.Locality
import Gridcalc.Proofs.Builtin.NearestSearch
import Gridcalc.Proofs.Builtin.Slicing
import Gridcalc.Proofs.Builtin.SortedSearch
import Gridcalc.Proofs.Builtin.TextLimits
import Gridcalc.Proofs.Builtin.TextSearch
import Gridcalc.Proofs.Builtin.Weeks
import Gridcalc.Proofs.Calendar.Gregorian
import Gridcalc.Proofs.Calendar.Serials
import Gridcalc.Proofs.CommandLine.Assignments
import Gridcalc.Proofs.Dependency.Components
import Gridcalc.Proofs.Dependency.Downstream
import Gridcalc.Proofs.Dependency.Edges
import Gridcalc.Proofs.Dependency.Groups
import Gridcalc.Proofs.Dependency.Walk
import Gridcalc.Proofs.Evaluation.Beside
import Gridcalc.Proofs.Evaluation.Determined
import Gridcalc.Proofs.Evaluation.Faults
import Gridcalc.Proofs.Evaluation.Footprint
import Gridcalc.Proofs.Evaluation.Moved
import Gridcalc.Proofs.Evaluation.RangeSum
import Gridcalc.Proofs.Evaluation.Renamed
import Gridcalc.Proofs.Evaluation.Subtotals
import Gridcalc.Proofs.Evaluation.Yields
import Gridcalc.Proofs.Formula.CallHints
import Gridcalc.Proofs.Formula.Calls
import Gridcalc.Proofs.Formula.CaretScan
import Gridcalc.Proofs.Formula.Deletions
import Gridcalc.Proofs.Formula.Derived
import Gridcalc.Proofs.Formula.Diagnosed
import Gridcalc.Proofs.Formula.ErrorLiterals
import Gridcalc.Proofs.Formula.Following
import Gridcalc.Proofs.Formula.Grammar
import Gridcalc.Proofs.Formula.Language
import Gridcalc.Proofs.Formula.Lexemes
import Gridcalc.Proofs.Formula.Limits
import Gridcalc.Proofs.Formula.Lines
import Gridcalc.Proofs.Formula.Moves
import Gridcalc.Proofs.Formula.Nesting
import Gridcalc.Proofs.Formula.OpenCalls
import Gridcalc.Proofs.Formula.Printed
import Gridcalc.Proofs.Formula.Recognised
import Gridcalc.Proofs.Formula.Rectangles
import Gridcalc.Proofs.Formula.Renaming
import Gridcalc.Proofs.Formula.Rereading
import Gridcalc.Proofs.Formula.Reverting
import Gridcalc.Proofs.Formula.Rewriting
import Gridcalc.Proofs.Formula.SheetNames
import Gridcalc.Proofs.Formula.Shifting
import Gridcalc.Proofs.Formula.Simple
import Gridcalc.Proofs.Formula.Spans
import Gridcalc.Proofs.Formula.Splices
import Gridcalc.Proofs.Formula.Tails
import Gridcalc.Proofs.Formula.Trees
import Gridcalc.Proofs.Number.Integers
import Gridcalc.Proofs.Number.Lengths
import Gridcalc.Proofs.Number.Naturals
import Gridcalc.Proofs.Number.Places
import Gridcalc.Proofs.Number.Sums
import Gridcalc.Proofs.Number.Wholes
import Gridcalc.Proofs.Sheet.Contents
import Gridcalc.Proofs.Sheet.Lines
import Gridcalc.Proofs.Sheet.Sparse
import Gridcalc.Proofs.Sheet.Store
import Gridcalc.Proofs.Sheet.WellFormed
import Gridcalc.Proofs.Text.Patterns
import Gridcalc.Proofs.Value.Sections
import Gridcalc.Proofs.Workbook.Atomicity
import Gridcalc.Proofs.Workbook.Batching
import Gridcalc.Proofs.Workbook.Changes
import Gridcalc.Proofs.Workbook.Circles
import Gridcalc.Proofs.Workbook.CutPaste
import Gridcalc.Proofs.Workbook.Effect
import Gridcalc.Proofs.Workbook.Filtering
import Gridcalc.Proofs.Workbook.Frozen
import Gridcalc.Proofs.Workbook.Guard
import Gridcalc.Proofs.Workbook.Hiding
import Gridcalc.Proofs.Workbook.Inputs
import Gridcalc.Proofs.Workbook.LineEdits
import Gridcalc.Proofs.Workbook.MovedPrecedents
import Gridcalc.Proofs.Workbook.Operations
import Gridcalc.Proofs.Workbook.Pass
import Gridcalc.Proofs.Workbook.Pasting
import Gridcalc.Proofs.Workbook.Places
import Gridcalc.Proofs.Workbook.Reached
import Gridcalc.Proofs.Workbook.Reading
import Gridcalc.Proofs.Workbook.Rebuilding
import Gridcalc.Proofs.Workbook.Renaming
import Gridcalc.Proofs.Workbook.Resting
import Gridcalc.Proofs.Workbook.Retyping
import Gridcalc.Proofs.Workbook.Reverting
import Gridcalc.Proofs.Workbook.Runs
import Gridcalc.Proofs.Workbook.Settled
import Gridcalc.Proofs.Workbook.Shifts
import Gridcalc.Proofs.Workbook.SortKeys
import Gridcalc.Proofs.Workbook.Sorted
import Gridcalc.Proofs.Workbook.Steps
import Gridcalc.Proofs.Workbook.Undoing
import Gridcalc.Proofs.Workbook.WellFormed
import Gridcalc.Sheet.Cell
import Gridcalc.Sheet.Store
import Gridcalc.Sheet.View
import Gridcalc.Sheet.Worksheet
import Gridcalc.Text.Blank
import Gridcalc.Text.Case
import Gridcalc.Text.CaseTable
import Gridcalc.Text.Letter
import Gridcalc.Text.LetterTable
import Gridcalc.Text.Place
import Gridcalc.Text.Quoted
import Gridcalc.Text.VisibleTable
import Gridcalc.Text.Wildcard
import Gridcalc.Value.Basic
import Gridcalc.Value.Coercion
import Gridcalc.Value.NumberText
import Gridcalc.Value.Order
import Gridcalc.Value.Picture
import Gridcalc.Workbook.Basic
import Gridcalc.Workbook.Cells
import Gridcalc.Workbook.Clipboard
import Gridcalc.Workbook.Recalculation
import Gridcalc.Workbook.RowFilter
import Gridcalc.Workbook.Sheets
import Gridcalc.Workbook.Sorting
import Gridcalc.Workbook.Undo
