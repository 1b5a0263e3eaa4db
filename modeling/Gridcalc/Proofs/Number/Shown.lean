import Gridcalc.Proofs.Number.Naturals

/-!
# Shown numbers

* `Shown`, `shown_showNumber`: the characters that numbers are shown with, none of them a blank;
* `readNumber?_showNumber_ofNat`: **whole numbers below `10 ^ 15` are read back from what is
  shown**.
-/

namespace Gridcalc

/-! ## 1. Characters of shown numbers -/

/-- A character that a number is shown with, an infinite one and the non-number included. -/
def isShownChar (c : Char) : Bool :=
  c.isDigit || ['-', '.', 'i', 'n', 'f', 'N', 'a', '#', 'U', 'M', '!'].contains c

/-- A text of which every character can stand in a shown number. -/
def Shown (cs : List Char) : Prop := ∀ c ∈ cs, isShownChar c = true

section Shown

variable {c : Char} {cs ds : List Char}

theorem Shown.of_subset (h : Shown cs) (hsub : ds ⊆ cs) : Shown ds := fun d hd => h d (hsub hd)

theorem Shown.cons (hc : isShownChar c = true) (h : Shown cs) : Shown (c :: cs) :=
  List.forall_mem_cons.mpr ⟨hc, h⟩

theorem Shown.append (h : Shown cs) (h' : Shown ds) : Shown (cs ++ ds) :=
  List.forall_mem_append.mpr ⟨h, h'⟩

theorem shown_zeros (n : Nat) : Shown (List.replicate n '0') := by
  intro d hd
  rw [(List.mem_replicate.mp hd).2]
  decide

theorem shown_naturalText (n : Nat) : Shown (naturalText n) := fun d hd =>
  Bool.or_eq_true_iff.mpr (.inl (isDigit_naturalText n d hd))

theorem shown_words : Shown "NaN".toList ∧ Shown "inf".toList ∧ Shown "#NUM!".toList := by
  exact ⟨List.all_eq_true.mp (by decide), List.all_eq_true.mp (by decide),
    List.all_eq_true.mp (by decide)⟩

theorem Shown.minusText (h : Shown cs) (negative : Bool) : Shown (minusText negative cs) := by
  cases negative with
  | false => exact h
  | true => exact .cons (by decide) h

theorem shown_integerText (n : Int) : Shown (integerText n) := by
  unfold integerText
  split
  · exact .cons (by decide) (shown_naturalText _)
  · exact shown_naturalText _

theorem Shown.padZeros (h : Shown cs) (width : Nat) : Shown (padZeros width cs) :=
  (shown_zeros _).append h

/-- A point within a text. -/
theorem Shown.pointed (h : Shown cs) (n : Nat) : Shown (cs.take n ++ '.' :: cs.drop n) :=
  (h.of_subset (List.take_subset n cs)).append
    (.cons (by decide) (h.of_subset (List.drop_subset n cs)))

theorem shown_positional (d : Decimal) : Shown d.positional := by
  unfold Decimal.positional
  dsimp only
  split
  · exact (shown_naturalText _).append (shown_zeros _)
  · exact ((shown_naturalText _).padZeros _).pointed _

theorem shown_placesText (places n : Nat) : Shown (placesText places n) := by
  have hpadded := (shown_naturalText n).padZeros (places + 1)
  unfold placesText
  dsimp only
  split
  · exact hpadded
  · exact hpadded.pointed _

theorem shown_shortText (x : Float) : Shown (shortText x) := by
  unfold shortText
  split
  · exact shown_words.1
  · exact shown_words.2.1.minusText _
  · refine .minusText ?_ _
    split
    · exact shown_zeros 1
    · exact shown_positional _

theorem shown_fixedText (places : Nat) (x : Float) : Shown (fixedText places x) := by
  unfold fixedText
  split
  · exact shown_words.1
  · exact shown_words.2.1.minusText _
  · exact (shown_placesText _ _).minusText _

theorem Shown.dropTrailing (h : Shown cs) (c : Char) : Shown (dropTrailing c cs) := by
  refine h.of_subset fun d hd => ?_
  exact List.mem_reverse.mp ((List.dropWhile_sublist _).subset (List.mem_reverse.mp hd))

/-- **A number is shown with digits, points and signs**, or by the words for what is no number. -/
theorem shown_showNumber (x : Float) : Shown (showNumber x) := by
  unfold showNumber
  split
  · exact shown_words.2.2
  · split
    · exact shown_integerText _
    · dsimp only
      split
      · exact shown_shortText x
      · exact ((shown_fixedText 15 x).dropTrailing '0').dropTrailing '.'

theorem toNat_of_isShownChar (h : isShownChar c = true) :
    32 < c.toNat ∧ c.toNat < 127 ∧ c ≠ '=' := by
  rw [isShownChar, Bool.or_eq_true, List.contains_iff_mem] at h
  rcases h with h | h
  · have hdigit := isDigit_iff.mp h
    refine ⟨by omega, by omega, ?_⟩
    rintro rfl
    cases h
  · simp only [List.mem_cons, List.not_mem_nil, or_false] at h
    rcases h with rfl | rfl | rfl | rfl | rfl | rfl | rfl | rfl | rfl | rfl | rfl <;> decide

/-- Nothing is trimmed off a shown number. -/
theorem Shown.trim_eq (h : Shown cs) : Text.trim cs = cs :=
  trim_eq_self fun c hc =>
    have ⟨hlow, hhigh, _⟩ := toNat_of_isShownChar (h c hc)
    not_isBlank_of_toNat hlow hhigh

end Shown

/-! ## 2. Whole numbers -/

section Naturals

variable {k : Nat}

theorem isFinite_ofNat (h : k < 2 ^ 53) : (Float.ofNat k).isFinite = true := by
  by_cases h0 : k = 0
  · subst h0
    rfl
  · have hfinite : (Float.ofNat k).isFinite = (Float.ofNat k).toModel.unpack.isFinite := rfl
    rw [hfinite, unpack_ofNat h0 h]
    rfl

theorem readPlainNumber?_naturalText (h : k < 2 ^ 53) :
    readPlainNumber? (naturalText k) = some (Float.ofNat k) := by
  have hchar : ∀ c ∈ naturalText k, c ≠ ',' ∧ isNumberChar c = true := by
    intro c hc
    have hdigit := isDigit_naturalText k c hc
    refine ⟨?_, by simp [isNumberChar, hdigit]⟩
    rintro rfl
    cases hdigit
  have hcommas : (naturalText k).filter (· ≠ ',') = naturalText k :=
    List.filter_eq_self.mpr fun c hc => decide_eq_true (hchar c hc).1
  have hall : (naturalText k).all isNumberChar = true :=
    List.all_eq_true.mpr fun c hc => (hchar c hc).2
  unfold readPlainNumber?
  dsimp only
  rw [hcommas, if_pos hall, read?_naturalText h, Option.filter_some, if_pos (isFinite_ofNat h)]

/-- **Whole numbers below `10 ^ 15` are read back from what is shown.** -/
theorem readNumber?_showNumber_ofNat (h : k < 10 ^ 15) :
    readNumber? (showNumber (Float.ofNat k)) = some (Float.ofNat k) := by
  rw [showNumber_ofNat h, readNumber?]
  cases hrev : (naturalText k).reverse with
  | nil => exact absurd (List.reverse_eq_nil_iff.mp hrev) (naturalText_ne_nil k)
  | cons c cs =>
    have hc : c ∈ naturalText k := List.mem_reverse.mp (hrev ▸ List.mem_cons_self)
    have hpercent : c ≠ '%' := by
      rintro rfl
      cases isDigit_naturalText k _ hc
    rw [readNumberBackwards?, if_neg hpercent, ← hrev, List.reverse_reverse,
      readPlainNumber?_naturalText (by omega)]

end Naturals

end Gridcalc
