import Gridcalc.Proofs.Number.Places
import Gridcalc.Proofs.Workbook.Sorted

/-!
# The order of sort keys

Where the order of keys is a total preorder, so that sorting by it puts keys in order.

* `Value.standing`: values by their kinds and by what they hold, in a total preorder;
* `Value.compare_eq_standing`: the order of values is that one, given the places of numbers;
* `KeysPreordered`: a total preorder on some keys;
* `keysPreordered_iff`: **which keys are in a total preorder**: all those without a non-number, and
  with one only such as have equal numbers.

The non-number is equal to every number. Numbers that differ are so put into one class with it, and
sorting leaves them as they are if it stands between them.
-/

namespace Gridcalc

open Std

/-! ## 1. Values by what they hold -/

namespace Value

/-- Whether a value holds the non-number. -/
def isNaN (v : Value) : Bool := v.number?.any Float.isNaN

/-- The small letters of a text, by which it is compared. -/
def letters : Value → List Char
  | .text s => Text.lowercase s.toList
  | _ => []

/-- The truth value that a value is. -/
def truth : Value → Bool
  | .boolean b => b
  | _ => false

/-- The place of an error among all errors. -/
def errorRank : Value → Nat
  | .error e => e.rank
  | _ => 0

/-- The place of the number that a value holds; of any other value the place of zero. -/
def place (v : Value) : Place := (v.number?.map Place.ofNumber).getD .zero

/-- The order of values by their kinds, and within a kind by what they hold, if numbers have the
    given places. -/
def standing (place : Value → Place) : Value → Value → Ordering :=
  compareLex (compareOn kindRank) (compareLex (compareOn place) (compareLex (compareOn letters)
    (compareLex (compareOn truth) (compareOn errorRank))))

instance (place : Value → Place) : TransCmp (standing place) :=
  inferInstanceAs (TransCmp (compareLex _ (compareLex _ (compareLex _ (compareLex _ _)))))

variable {a b : Value} {values : Set Value} {place : Value → Place}

/-- Two numbers are compared as such. -/
theorem compare_of_isNumeric (ha : a.isNumeric = true) (hb : b.isNumeric = true) :
    a.compare b = compareNumbers (a.number?.getD 0) (b.number?.getD 0) := by
  cases a <;> cases ha <;> cases b <;> cases hb <;> rfl

/-- Values of different kinds are compared by their kinds. -/
theorem compare_of_kindRank_ne (ha : a ≠ .empty) (hb : b ≠ .empty)
    (h : a.kindRank ≠ b.kindRank) : a.compare b = Ord.compare a.kindRank b.kindRank := by
  cases a <;> cases b <;>
    first | rfl | exact absurd rfl h | exact absurd rfl ha | exact absurd rfl hb

theorem standing_of_kindRank_ne (h : a.kindRank ≠ b.kindRank) :
    standing place a b = Ord.compare a.kindRank b.kindRank := by
  have hne : Ord.compare a.kindRank b.kindRank ≠ .eq := fun e => h (Nat.compare_eq_eq.mp e)
  show (Ord.compare a.kindRank b.kindRank).then _ = _
  cases hcmp : Ord.compare a.kindRank b.kindRank with
  | eq => exact absurd hcmp hne
  | lt => rfl
  | gt => rfl

/-- Numbers stand where their places are. -/
theorem standing_of_isNumeric (ha : a.isNumeric = true) (hb : b.isNumeric = true) :
    standing place a b = Ord.compare (place a) (place b) := by
  have hplaces : (Ord.compare (place a) (place b)).then .eq = Ord.compare (place a) (place b) :=
    Ordering.then_eq
  cases a <;> cases ha <;> cases b <;> cases hb <;> exact hplaces

/-- **The order of values is that by kinds and by what they hold**, whichever places order the
    numbers. -/
theorem compare_eq_standing (place : Value → Place) (ha : a ≠ .empty) (hb : b ≠ .empty)
    (hother : ∀ v : Value, v.isNumeric = false → place v = .zero)
    (hnumbers : a.isNumeric = true → b.isNumeric = true →
      a.compare b = Ord.compare (place a) (place b)) : a.compare b = standing place a b := by
  by_cases hkind : a.kindRank = b.kindRank
  · have hnumeric : a.isNumeric = true → b.isNumeric = true → a.compare b = standing place a b :=
      fun ha hb => (hnumbers ha hb).trans (standing_of_isNumeric ha hb).symm
    have hplaces : a.isNumeric = false → b.isNumeric = false →
        Ord.compare (place a) (place b) = .eq := fun ha hb => by
      rw [hother a ha, hother b hb]
      rfl
    cases a with
    | empty => exact absurd rfl ha
    | number x =>
      cases b with
      | empty => exact absurd rfl hb
      | number y => exact hnumeric rfl rfl
      | date u => exact hnumeric rfl rfl
      | _ => cases hkind
    | date t =>
      cases b with
      | empty => exact absurd rfl hb
      | number y => exact hnumeric rfl rfl
      | date u => exact hnumeric rfl rfl
      | _ => cases hkind
    | text s =>
      cases b with
      | text s' =>
        show compareTexts s s' = (Ord.compare (place (text s)) (place (text s'))).then
          ((compareTexts s s').then .eq)
        rw [hplaces rfl rfl, Ordering.then_eq]
        rfl
      | _ => cases hkind
    | boolean p =>
      cases b with
      | boolean q =>
        show Ord.compare p q = (Ord.compare (place (boolean p)) (place (boolean q))).then
          ((Ord.compare p q).then .eq)
        rw [hplaces rfl rfl, Ordering.then_eq]
        rfl
      | _ => cases hkind
    | error e =>
      cases b with
      | error e' =>
        show Ord.compare e.rank e'.rank = (Ord.compare (place (error e)) (place (error e'))).then
          (Ord.compare e.rank e'.rank)
        rw [hplaces rfl rfl]
        rfl
      | _ => cases hkind
  · rw [compare_of_kindRank_ne ha hb hkind, standing_of_kindRank_ne hkind]

/-! ## 2. Numbers and the non-number -/

theorem ne_empty_of_isBlank (h : a.isBlank = false) : a ≠ .empty := by
  rintro rfl
  cases h

theorem place_of_not_isNumeric (h : a.isNumeric = false) : a.place = .zero := by
  cases a <;> first | rfl | cases h

/-- Numbers are compared by their places. -/
theorem compare_of_numbers (ha : a.isNumeric = true) (hb : b.isNumeric = true)
    (hna : a.isNaN = false) (hnb : b.isNaN = false) :
    a.compare b = Ord.compare a.place b.place := by
  rw [compare_of_isNumeric ha hb]
  cases a <;> cases ha <;> cases b <;> cases hb <;> exact compareNumbers_eq hna hnb

/-- The non-number is equal to every number. -/
theorem compare_of_isNaN (ha : a.isNumeric = true) (hb : b.isNumeric = true)
    (h : a.isNaN = true ∨ b.isNaN = true) : a.compare b = .eq := by
  rw [compare_of_isNumeric ha hb]
  cases a <;> cases ha <;> cases b <;> cases hb <;> exact compareNumbers_of_isNaN h

theorem isNumeric_of_isNaN (h : a.isNaN = true) : a.isNumeric = true := by
  cases a <;> first | rfl | cases h

theorem isBlank_of_isNumeric (h : a.isNumeric = true) : a.isBlank = false := by
  cases a <;> first | rfl | cases h

/-- Seen from the other side, the order of values is turned round. -/
theorem compare_swap (ha : a ≠ .empty) (hb : b ≠ .empty) :
    a.compare b = (b.compare a).swap := by
  by_cases hnan : (a.isNumeric = true ∧ b.isNumeric = true) ∧ (a.isNaN = true ∨ b.isNaN = true)
  · obtain ⟨⟨ha', hb'⟩, hnan⟩ := hnan
    rw [compare_of_isNaN ha' hb' hnan, compare_of_isNaN hb' ha' hnan.symm]
    rfl
  · have hnumbers : a.isNumeric = true → b.isNumeric = true → a.isNaN = false ∧ b.isNaN = false :=
      fun ha' hb' => by simpa [ha', hb', not_or] using hnan
    rw [compare_eq_standing Value.place ha hb (fun _ => place_of_not_isNumeric)
        fun ha' hb' => compare_of_numbers ha' hb' (hnumbers ha' hb').1 (hnumbers ha' hb').2,
      compare_eq_standing Value.place hb ha (fun _ => place_of_not_isNumeric)
        fun hb' ha' => compare_of_numbers hb' ha' (hnumbers ha' hb').2 (hnumbers ha' hb').1]
    exact OrientedCmp.eq_swap

/-- The order of values is a total preorder where places order the numbers. -/
theorem preordersOn_of_places (place : Value → Place)
    (hother : ∀ v : Value, v.isNumeric = false → place v = .zero)
    (hblank : ∀ v ∈ values, v.isBlank = false)
    (hnumbers : ∀ a ∈ values, ∀ b ∈ values, a.isNumeric = true → b.isNumeric = true →
      a.compare b = Ord.compare (place a) (place b)) : PreordersOn values := by
  have hstanding : ∀ a ∈ values, ∀ b ∈ values, a.compare b = standing place a b :=
    fun a ha b hb => compare_eq_standing place (ne_empty_of_isBlank (hblank a ha))
      (ne_empty_of_isBlank (hblank b hb)) hother (hnumbers a ha b hb)
  refine ⟨fun a ha b hb => ?_, fun a ha b hb c hc hab hbc => ?_⟩
  · rw [hstanding a ha b hb, hstanding b hb a ha]
    exact OrientedCmp.eq_swap
  · rw [hstanding a ha b hb] at hab
    rw [hstanding b hb c hc] at hbc
    rw [hstanding a ha c hc]
    exact TransCmp.isLE_trans hab hbc

end Value

/-! ## 3. Keys -/

/-- The order of keys is a total preorder on some of them. -/
structure KeysPreordered (order : SortOrder) (keys : Set Value) : Prop where
  /-- Seen from the other side it is turned round. -/
  swap : ∀ a ∈ keys, ∀ b ∈ keys, compareKeys order b a = (compareKeys order a b).swap
  /-- What is not behind is passed on. -/
  trans : ∀ a ∈ keys, ∀ b ∈ keys, ∀ c ∈ keys,
    compareKeys order a b ≠ .gt → compareKeys order b c ≠ .gt → compareKeys order a c ≠ .gt
  /-- Equal keys are compared alike with every other one. -/
  alike : ∀ a ∈ keys, ∀ b ∈ keys, ∀ c ∈ keys,
    compareKeys order a b = .eq → compareKeys order a c = compareKeys order b c

variable {order : SortOrder} {keys : Set Value} {a b : Value}

theorem KeysPreordered.of_transCmp (h : TransCmp fun a b : keys => compareKeys order a b) :
    KeysPreordered order keys := by
  refine ⟨fun a ha b hb => ?_, fun a ha b hb c hc hab hbc => ?_, fun a ha b hb c hc hab => ?_⟩
  · exact h.eq_swap (a := ⟨b, hb⟩) (b := ⟨a, ha⟩)
  · exact Ordering.isLE_iff_ne_gt.mp (h.isLE_trans (a := ⟨a, ha⟩) (b := ⟨b, hb⟩) (c := ⟨c, hc⟩)
      (Ordering.isLE_iff_ne_gt.mpr hab) (Ordering.isLE_iff_ne_gt.mpr hbc))
  · exact h.congr_left (a := ⟨a, ha⟩) (b := ⟨b, hb⟩) (c := ⟨c, hc⟩) hab

/-- The order of keys is turned round for all keys. -/
theorem compareKeys_swap (order : SortOrder) (a b : Value) :
    compareKeys order b a = (compareKeys order a b).swap := by
  cases ha : a.isBlank with
  | true =>
    rw [compareKeys_blank ha]
    cases hb : b.isBlank with
    | true => rw [compareKeys_blank hb, ha]; rfl
    | false => rw [compareKeys_before_blank hb ha]; rfl
  | false =>
    cases hb : b.isBlank with
    | true => rw [compareKeys_blank hb, compareKeys_before_blank ha hb, ha]; rfl
    | false =>
      rw [compareKeys_of_not_blank ha hb, compareKeys_of_not_blank hb ha,
        Value.compare_swap (Value.ne_empty_of_isBlank hb) (Value.ne_empty_of_isBlank ha)]
      cases order <;> rfl

/-- Numbers are equal as keys if they are equal as values. -/
theorem compareKeys_eq_iff (order : SortOrder) (ha : a.isNumeric = true)
    (hb : b.isNumeric = true) :
    compareKeys order a b = .eq ↔ a.compare b = .eq := by
  rw [compareKeys_of_not_blank (Value.isBlank_of_isNumeric ha) (Value.isBlank_of_isNumeric hb)]
  cases order
  · exact Iff.rfl
  · exact Ordering.swap_eq_eq

/-- Keys are in a total preorder where places order the numbers. -/
theorem KeysPreordered.of_places (place : Value → Place)
    (hother : ∀ v : Value, v.isNumeric = false → place v = .zero)
    (hnumbers : ∀ a ∈ keys, ∀ b ∈ keys, a.isNumeric = true → b.isNumeric = true →
      a.compare b = Ord.compare (place a) (place b)) : KeysPreordered order keys := by
  refine .of_transCmp (@transCmp_compareKeys keys Subtype.val
    (Value.preordersOn_of_places place hother (fun v hv => hv.1) ?_) order)
  rintro a ⟨-, ⟨a, ha⟩, rfl⟩ b ⟨-, ⟨b, hb⟩, rfl⟩
  exact hnumbers a ha b hb

/-- **Which keys are in a total preorder.** For both directions and all values of cells, the order
    of keys is turned round if it is seen from the other side. It is a total preorder on keys
    without the non-number; with the non-number among them exactly if all numbers among them are
    equal. -/
theorem keysPreordered_iff (order : SortOrder) :
    (∀ a b : Value, compareKeys order b a = (compareKeys order a b).swap) ∧
    ∀ keys : Set Value, KeysPreordered order keys ↔
      ((∃ v ∈ keys, v.isNaN = true) → ∀ a ∈ keys, ∀ b ∈ keys, a.isNumeric = true →
        b.isNumeric = true → a.compare b = .eq) := by
  refine ⟨compareKeys_swap order, fun keys => ⟨fun h => ?_, fun h => ?_⟩⟩
  · -- the non-number equals both numbers, so they are compared alike
    rintro ⟨v, hv, hnan⟩ a ha b hb ha' hb'
    have hv' := Value.isNumeric_of_isNaN hnan
    have hav := (compareKeys_eq_iff order ha' hv').mpr
      (Value.compare_of_isNaN ha' hv' (.inr hnan))
    have hvb := (compareKeys_eq_iff order hv' hb').mpr
      (Value.compare_of_isNaN hv' hb' (.inl hnan))
    exact (compareKeys_eq_iff order ha' hb').mp ((h.alike a ha v hv b hb hav).trans hvb)
  · by_cases hnan : ∃ v ∈ keys, v.isNaN = true
    · refine .of_places (fun _ => .zero) (fun _ _ => rfl) fun a ha b hb ha' hb' => ?_
      exact h hnan a ha b hb ha' hb'
    · have hnot : ∀ v ∈ keys, v.isNaN = false := fun v hv =>
        Bool.eq_false_iff.mpr fun hv' => hnan ⟨v, hv, hv'⟩
      exact .of_places Value.place (fun _ => Value.place_of_not_isNumeric)
        fun a ha b hb ha' hb' => Value.compare_of_numbers ha' hb' (hnot a ha) (hnot b hb)

/-- Where a formula is evaluated that looks at no cell. -/
def emptyContext : Context :=
  { sheets := [.create "Sheet1" 20 10], sheet := 0, row := 0, col := 0,
    ambient := ⟨default, fun _ => 0⟩ }

/-- An infinite number times zero is stored as the non-number. Two and one are both equal to it, and
    stay in this order when the three are sorted. -/
theorem keysPreordered_iff_nonNumber :
    let v := formulaValue emptyContext (parseFormula "=PRODUCT(1E999,0)").root
    v.isNaN = true ∧
      stableSort (fun a b => compareKeys .ascending a b = .lt) [.number 2, v, .number 1] =
        [.number 2, v, .number 1] ∧
      ¬KeysPreordered .ascending {.number 2, v, .number 1} := by
  intro v
  have hnan : v.isNaN = true := by decide +kernel
  refine ⟨hnan, by decide +kernel, fun h => ?_⟩
  have hequal := ((keysPreordered_iff .ascending).2 _).mp h ⟨v, by simp, hnan⟩ (.number 2) (by simp)
    (.number 1) (by simp) rfl rfl
  exact absurd hequal (by decide +kernel)

end Gridcalc
