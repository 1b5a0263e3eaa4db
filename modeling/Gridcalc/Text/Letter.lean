import Gridcalc.Text.LetterTable

/-!
# Letters and digits

Which characters a name may hold: letters of any script, and numeric characters of any script.
-/

namespace Gridcalc.Text

/-- Whether an odd number of the bounds are at or below `n`, which is membership in the runs that
    the bounds delimit. -/
def inBounds (bounds : Array Nat) (n : Nat) : Bool :=
  bounds.foldl (fun inside b => if b ≤ n then !inside else inside) false

/-- The property Alphabetic; for ASCII the letters. -/
def isLetter (c : Char) : Bool :=
  if c.toNat < 128 then c.isAlpha else inBounds alphabeticBounds c.toNat

/-- A numeric character of any script; for ASCII the digits. -/
def isNumeric (c : Char) : Bool :=
  if c.toNat < 128 then c.isDigit else inBounds numericBounds c.toNat

/-- A letter or a numeric character. -/
def isLetterOrNumber (c : Char) : Bool := isLetter c || isNumeric c

/-- An ASCII letter or digit. -/
def isAsciiAlphanumeric (c : Char) : Bool := c.isAlpha || c.isDigit

/-- Every ASCII letter is a letter here. -/
theorem isLetter_of_isAlpha {c : Char} (h : c.isAlpha = true) : isLetter c = true := by
  have bounded : c.toNat < 128 := by
    have h : (c.isUpper || c.isLower) = true := h
    have upper : c.isUpper = decide (c.val ≥ 'A'.val ∧ c.val ≤ 'Z'.val) := rfl
    have lower : c.isLower = (decide (c.val ≥ 'a'.val) && decide (c.val ≤ 'z'.val)) := rfl
    rw [upper, lower] at h
    simp only [Bool.or_eq_true, Bool.and_eq_true, decide_eq_true_eq, ge_iff_le,
      UInt32.le_iff_toNat_le] at h
    have top : c.val.toNat ≤ 122 := by
      rcases h with ⟨_, h⟩ | ⟨_, h⟩
      · exact Nat.le_trans h (by decide)
      · exact Nat.le_trans h (by decide)
    exact Nat.lt_of_le_of_lt top (by decide)
  simp [isLetter, bounded, h]

end Gridcalc.Text
