import Gridcalc.Text.CaseTable
import Gridcalc.Text.Letter

/-!
# Upper and lower case

Case conversion of whole texts, with capitals of several letters and the small sigma that ends a
word, and the simple folding under which two letters count as the same.

* `lowercase`, `uppercase` convert a text; `capital`, `small` convert one character;
* `foldChar` is the representative of a letter when case is ignored;
* `sameIgnoringCase` compares names by ASCII case only.
-/

namespace Gridcalc.Text

/-! ## 1. One character -/

/-- The code point that the first run holding `n` maps it to. -/
def mapBy : List (Nat × Nat × Nat × Nat) → Nat → Nat
  | [], n => n
  | (first, last, step, target) :: runs, n =>
    if first ≤ n ∧ n ≤ last ∧ (n - first) % step = 0 then target + (n - first) else mapBy runs n

/-- The small letter of a capital; only the dotted capital I has two characters. -/
def small (c : Char) : List Char :=
  if c.toNat < 128 then [c.toLower]
  else if c.toNat = 0x130 then ['i', Char.ofNat 0x307]
  else [Char.ofNat (mapBy lowerRuns c.toNat)]

/-- The capital of a letter, which may have up to three letters. -/
def capital (c : Char) : List Char :=
  if c.toNat < 128 then [c.toUpper]
  else match longCapitals.lookup c.toNat with
    | some ns => ns.map Char.ofNat
    | none => [Char.ofNat (mapBy upperRuns c.toNat)]

/-- The letter that stands for `c` when case is ignored character by character. -/
def foldChar (c : Char) : Char :=
  if c.toNat < 128 then c.toLower else Char.ofNat (mapBy foldRuns c.toNat)

/-! ## 2. Whole texts -/

/-- The property Cased. -/
def isCased (c : Char) : Bool := inBounds casedBounds c.toNat

/-- The property Case_Ignorable. -/
def isCaseIgnorable (c : Char) : Bool := inBounds caseIgnorableBounds c.toNat

/-- Whether the first character that is not ignorable for case is a cased one. -/
def meetsCased (cs : List Char) : Bool :=
  match cs.dropWhile isCaseIgnorable with
  | [] => false
  | c :: _ => isCased c

/-- The small letters of a text of which `before` has gone by, last character first. A capital
    sigma that ends a word becomes the final small sigma. -/
def lowercaseAfter (before : List Char) : List Char → List Char
  | [] => []
  | c :: cs =>
    let here :=
      if c.toNat = 0x3A3 then
        [Char.ofNat (if meetsCased before && !meetsCased cs then 0x3C2 else 0x3C3)]
      else small c
    here ++ lowercaseAfter (c :: before) cs

/-- A text in small letters. -/
def lowercase (cs : List Char) : List Char := lowercaseAfter [] cs

/-- A text in capitals. -/
def uppercase (cs : List Char) : List Char := cs.flatMap capital

@[simp] theorem lowercase_nil : lowercase [] = [] := rfl

@[simp] theorem uppercase_nil : uppercase [] = [] := rfl

/-- Where a text holds ASCII only, its small letters are those of its characters. -/
theorem lowercaseAfter_ascii (before cs : List Char) (h : ∀ c ∈ cs, c.toNat < 128) :
    lowercaseAfter before cs = cs.map Char.toLower := by
  induction cs generalizing before with
  | nil => rfl
  | cons c cs ih =>
    have hc : c.toNat < 128 := h c (by simp)
    have hs : c.toNat ≠ 0x3A3 := by omega
    simp [lowercaseAfter, small, hc, hs, ih (c :: before) fun d hd => h d (by simp [hd])]

/-! ## 3. Names -/

/-- Two names with the same characters up to ASCII case. -/
def sameIgnoringCase (a b : String) : Bool :=
  a.toList.map Char.toLower == b.toList.map Char.toLower

@[simp] theorem sameIgnoringCase_self (a : String) : sameIgnoringCase a a = true := by
  simp [sameIgnoringCase]

theorem sameIgnoringCase_comm (a b : String) : sameIgnoringCase a b = sameIgnoringCase b a := by
  simp only [sameIgnoringCase]
  exact Bool.beq_comm

theorem sameIgnoringCase_trans {a b c : String} (hab : sameIgnoringCase a b = true)
    (hbc : sameIgnoringCase b c = true) : sameIgnoringCase a c = true := by
  simp only [sameIgnoringCase, beq_iff_eq] at *
  exact hab.trans hbc

/-- A name in ASCII capitals; other characters are kept. -/
def asciiCapitals (s : String) : String := String.ofList (s.toList.map Char.toUpper)

end Gridcalc.Text
