import Gridcalc.Value.Coercion

/-!
# Cells

What a sheet stores at a position: a literal value, or the text of a formula with the value it last
came to, and the index of a style.
-/

namespace Gridcalc

/-- A stored cell. -/
structure Cell where
  /-- The text of the formula, equals sign included, for a formula cell. -/
  formula : Option String := none
  /-- The literal value, or the value the formula last came to. -/
  value : Value := .empty
  /-- The index of the style; 0 is the default style. -/
  style : Nat := 0
  deriving DecidableEq, Repr, Inhabited

namespace Cell

/-- A cell with a literal value. -/
def ofValue (v : Value) : Cell := { value := v }

/-- A cell with a formula that has not been evaluated. -/
def ofFormula (text : String) : Cell := { formula := some text }

def isFormula (c : Cell) : Bool := c.formula.isSome

/-- Whether there is nothing worth storing. -/
def isBlank (c : Cell) : Bool := c.formula.isNone && c.value.isEmpty && c.style == 0

/-- The contents as a user would type them. -/
def inputText (c : Cell) : String := c.formula.getD c.value.display

/-- The same contents in a style. -/
def withStyle (c : Cell) (style : Nat) : Cell := { c with style }

/-- The same cell with another value. -/
def withValue (c : Cell) (v : Value) : Cell := { c with value := v }

/-- The only blank cell is the default one. -/
theorem isBlank_iff {c : Cell} : c.isBlank = true ↔ c = {} := by
  obtain ⟨f, v, s⟩ := c
  cases f <;> cases v <;> simp [isBlank, Value.isEmpty]

end Cell

end Gridcalc
