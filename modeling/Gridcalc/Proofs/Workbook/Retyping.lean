import Gridcalc.Proofs.Number.Shown
import Gridcalc.Proofs.Workbook.Batching
import Gridcalc.Proofs.Workbook.Undoing

/-!
# Typing what a cell shows

A command that types what a cell shows already is passed over. Typing it all the same would change
a cell that is not read back from what it shows.

* `Value.ReadsBack`, `Cell.ReadsBack`: which contents are read back, by their kinds;
* `Cell.readsBack_iff`: they are those that typing what the cell shows leaves as they are;
* `Cell.readsBack_ofInput`: **whatever was typed is read back**, save for numbers other than whole
  ones;
* `Command.retyped_unchanged_iff`: **what a command that was passed over would have changed**.
-/

namespace Gridcalc

/-! ## 1. Values that are read back -/

/-- Whether a user's input is a formula: an equals sign, and something behind it. -/
def isFormulaText (cs : List Char) : Bool :=
  match cs with
  | '=' :: _ :: _ => true
  | _ => false

theorem isFormulaText_iff {cs : List Char} :
    isFormulaText cs = true ↔ ∃ c rest, cs = '=' :: c :: rest := by
  unfold isFormulaText
  split
  · exact ⟨fun _ => ⟨_, _, rfl⟩, fun _ => rfl⟩
  · rename_i hnone
    exact ⟨fun h => (nomatch h), fun ⟨c, rest, heq⟩ => (hnone c rest heq).elim⟩

/-- A text that stands for itself when it is typed: it is not blank, and blanks around it aside, it
    is no number, no truth value and no error. -/
structure StandsForItself (s : String) : Prop where
  not_blank : Text.trim s.toList ≠ []
  no_number : readNumber? (Text.trim s.toList) = none
  not_true : Text.sameIgnoringCase (String.ofList (Text.trim s.toList)) "TRUE" = false
  not_false : Text.sameIgnoringCase (String.ofList (Text.trim s.toList)) "FALSE" = false
  no_error : ErrorValue.ofLiteral? (String.ofList (Text.trim s.toList)) = none

instance (s : String) : Decidable (StandsForItself s) :=
  decidable_of_iff (Text.trim s.toList ≠ [] ∧ readNumber? (Text.trim s.toList) = none ∧
      Text.sameIgnoringCase (String.ofList (Text.trim s.toList)) "TRUE" = false ∧
      Text.sameIgnoringCase (String.ofList (Text.trim s.toList)) "FALSE" = false ∧
      ErrorValue.ofLiteral? (String.ofList (Text.trim s.toList)) = none)
    ⟨fun ⟨h1, h2, h3, h4, h5⟩ => ⟨h1, h2, h3, h4, h5⟩,
      fun h => ⟨h.not_blank, h.no_number, h.not_true, h.not_false, h.no_error⟩⟩

namespace Value

/-- A literal value that is read back from what is shown for it. No date is, since dates are read as
    texts. -/
def ReadsBack : Value → Prop
  | .number x => readNumber? (showNumber x) = some x
  | .text s => isFormulaText s.toList = false ∧ StandsForItself s
  | .date _ => False
  | .boolean _ | .error _ | .empty => True

instance (v : Value) : Decidable v.ReadsBack :=
  match v with
  | .number x => inferInstanceAs (Decidable (readNumber? (showNumber x) = some x))
  | .text s => inferInstanceAs (Decidable (isFormulaText s.toList = false ∧ StandsForItself s))
  | .date _ => inferInstanceAs (Decidable False)
  | .boolean _ | .error _ | .empty => inferInstanceAs (Decidable True)

/-- What an input can stand for. -/
inductive StandsFor (s : String) : Value → Prop
  | nothing : StandsFor s .empty
  | number {x : Float} (h : readNumber? (Text.trim s.toList) = some x) : StandsFor s (.number x)
  | boolean (b : Bool) : StandsFor s (.boolean b)
  | error (e : ErrorValue) : StandsFor s (.error e)
  | itself (h : StandsForItself s) : StandsFor s (.text s)

theorem standsFor_ofInput (s : String) : StandsFor s (ofInput s) := by
  unfold ofInput
  dsimp only
  split
  · exact .nothing
  rename_i hblank
  split
  · exact .number ‹_›
  rename_i hnumber
  split
  · exact .boolean true
  rename_i htrue
  split
  · exact .boolean false
  rename_i hfalse
  split
  · exact .error _
  rename_i herror
  refine .itself ⟨?_, hnumber, ?_, ?_, herror⟩
  · exact fun hnil => hblank (List.isEmpty_iff.mpr hnil)
  · exact Bool.eq_false_iff.mpr htrue
  · exact Bool.eq_false_iff.mpr hfalse

theorem ofInput_of_number {s : String} {x : Float}
    (h : readNumber? (Text.trim s.toList) = some x) : ofInput s = .number x := by
  have hblank : (Text.trim s.toList).isEmpty = false := by
    refine Bool.eq_false_iff.mpr fun hnil => ?_
    rw [List.isEmpty_iff.mp hnil, readNumber?_nil] at h
    cases h
  simp only [ofInput, hblank, h, Bool.false_eq_true, if_false]

theorem ofInput_of_standsForItself {s : String} (h : StandsForItself s) : ofInput s = .text s := by
  simp [ofInput, h.not_blank, h.no_number, h.not_true, h.not_false, h.no_error]

/-- Only formulas begin with an equals sign. -/
theorem isFormulaText_showNumber (x : Float) : isFormulaText (showNumber x) = false := by
  refine Bool.eq_false_iff.mpr fun h => ?_
  obtain ⟨c, rest, heq⟩ := isFormulaText_iff.mp h
  have hequals := shown_showNumber x '=' (heq ▸ List.mem_cons_self)
  exact absurd rfl (toNat_of_isShownChar hequals).2.2

/-- **A literal value is read back** from what is shown for it just if its kind says so. -/
theorem readsBack_iff (v : Value) :
    v.ReadsBack ↔ isFormulaText v.display.toList = false ∧ ofInput v.display = v := by
  have hstands : ofInput v.display = v → StandsFor v.display v := fun h =>
    (congrArg (StandsFor v.display) h).mp (standsFor_ofInput v.display)
  cases v with
  | number x =>
    have hshown : Text.trim (display (.number x)).toList = showNumber x := by
      rw [display, String.toList_ofList, (shown_showNumber x).trim_eq]
    have hplain : isFormulaText (display (.number x)).toList = false := by
      rw [display, String.toList_ofList, isFormulaText_showNumber]
    refine ⟨fun h => ⟨hplain, ofInput_of_number (hshown ▸ h)⟩, fun ⟨_, h⟩ => ?_⟩
    cases hstands h with
    | number hread => rwa [hshown] at hread
  | text s =>
    refine and_congr_right fun _ => ⟨ofInput_of_standsForItself, fun h => ?_⟩
    cases hstands h with
    | itself hs => exact hs
  | date t =>
    refine ⟨False.elim, fun ⟨_, h⟩ => ?_⟩
    cases hstands h
  | boolean b => cases b <;> exact ⟨fun _ => by decide +kernel, fun _ => trivial⟩
  | error e => cases e <;> exact ⟨fun _ => by decide +kernel, fun _ => trivial⟩
  | empty => exact ⟨fun _ => by decide +kernel, fun _ => trivial⟩

end Value

/-! ## 2. Cells that are read back -/

namespace Cell

/-- A cell whose contents are read back from what it shows as its input. -/
def ReadsBack (c : Cell) : Prop :=
  match c.formula with
  | some text => isFormulaText text.toList = true
  | none => c.value.ReadsBack

instance (c : Cell) : Decidable c.ReadsBack :=
  match c with
  | ⟨some text, _, _⟩ => inferInstanceAs (Decidable (isFormulaText text.toList = true))
  | ⟨none, v, _⟩ => inferInstanceAs (Decidable v.ReadsBack)

theorem ofInput_eq (input : String) : Cell.ofInput input =
    if isFormulaText input.toList then .ofFormula input else .ofValue (.ofInput input) := by
  unfold ofInput
  split
  · rename_i heq
    rw [if_pos (isFormulaText_iff.mpr ⟨_, _, heq⟩)]
  · rename_i hnone
    rw [if_neg]
    intro h
    obtain ⟨c, rest, heq⟩ := isFormulaText_iff.mp h
    exact hnone c rest heq

/-- **Typing what a cell shows leaves it as it is** just if it is read back. -/
theorem readsBack_iff (c : Cell) :
    c.ReadsBack ↔ (Cell.ofInput c.inputText).input.withStyle c.style = c.input := by
  obtain ⟨formula, value, style⟩ := c
  rw [ofInput_eq]
  cases formula with
  | some text =>
    show isFormulaText text.toList = true ↔ _
    have htext : inputText ⟨some text, value, style⟩ = text := rfl
    rw [htext]
    split
    · rename_i hformula
      exact ⟨fun _ => rfl, fun _ => hformula⟩
    · rename_i hplain
      exact ⟨fun h => absurd h hplain, fun h => nomatch congrArg Cell.formula h⟩
  | none =>
    show value.ReadsBack ↔ _
    have htext : inputText ⟨none, value, style⟩ = value.display := rfl
    rw [htext, Value.readsBack_iff]
    split
    · rename_i hformula
      refine ⟨fun h => ?_, fun h => nomatch congrArg Cell.formula h⟩
      rw [h.1] at hformula
      cases hformula
    · rename_i hplain
      have hsame : (ofValue (Value.ofInput value.display)).input.withStyle style =
          input ⟨none, value, style⟩ ↔ Value.ofInput value.display = value :=
        ⟨fun h => congrArg Cell.value h, fun h => congrArg (Cell.mk none · style) h⟩
      rw [hsame]
      exact and_iff_right (Bool.eq_false_iff.mpr hplain)

/-- **Whatever was typed is read back**, save for numbers other than the whole ones below
    `10 ^ 15`. -/
theorem readsBack_ofInput {input : String} (style : Nat)
    (h : ∀ x, (Cell.ofInput input).value = .number x → ∃ k < 10 ^ 15, x = Float.ofNat k) :
    ((Cell.ofInput input).withStyle style).ReadsBack := by
  rw [ofInput_eq] at h ⊢
  split
  · assumption
  · rename_i hplain
    rw [if_neg hplain] at h
    show (Value.ofInput input).ReadsBack
    cases hvalue : Value.ofInput input with
    | empty => trivial
    | boolean b => trivial
    | error e => trivial
    | number x =>
      obtain ⟨k, hk, rfl⟩ := h x hvalue
      exact readNumber?_showNumber_ofNat hk
    | text s =>
      have hstands := Value.standsFor_ofInput input
      rw [hvalue] at hstands
      cases hstands with
      | itself hs => exact ⟨Bool.eq_false_iff.mpr hplain, hs⟩
    | date t =>
      have hstands := Value.standsFor_ofInput input
      rw [hvalue] at hstands
      cases hstands

end Cell

/-! ## 3. Cells that are typed over -/

open Workbook

section Retyping

variable {wb wb' : Workbook} {key : CellKey}

/-- A cell is left as it is by what it shows, if it is read back. -/
theorem unlessBlank_retyped (hw : wb.WellFormed) {cell : Cell}
    (hcell : cellIn wb.sheets key = some cell) :
    ((Cell.ofInput cell.inputText).input.withStyle cell.style).unlessBlank = some cell.input ↔
      cell.ReadsBack := by
  have hstored : cell.input.unlessBlank = some cell.input := by
    rw [← Cell.input_unlessBlank, hw.unlessBlank_of_cellIn hcell]
    rfl
  rw [cell.readsBack_iff]
  refine ⟨fun h => ?_, fun h => h ▸ hstored⟩
  unfold Cell.unlessBlank at h
  split at h
  · cases h
  · exact Option.some.inj h

/-- **What typing over a cell what it shows changes**: nothing, just if the cell is read back. -/
theorem sameInputs_retyped_iff (hw : wb.WellFormed) (hin : wb.InGrid key) {input : String}
    (hshown : inputTextOf (cellIn wb.sheets key) = input) :
    SameInputs ((Edit.setInput key.sheet key.row key.col input).after wb).sheets wb.sheets ↔
      ∀ cell ∈ cellIn wb.sheets key, cell.ReadsBack := by
  have hafter : inputIn ((Edit.setInput key.sheet key.row key.col input).after wb).sheets key =
      ((Cell.ofInput input).input.withStyle (Edit.styleIn wb key)).unlessBlank := by
    rw [Edit.setInput, inputIn_writeContents hw hin, if_pos rfl]
  have hkey : inputIn ((Edit.setInput key.sheet key.row key.col input).after wb).sheets key =
      inputIn wb.sheets key ↔ ∀ cell ∈ cellIn wb.sheets key, cell.ReadsBack := by
    rw [hafter, Edit.styleIn, inputIn]
    cases hcell : cellIn wb.sheets key with
    | none =>
      rw [hcell] at hshown
      subst hshown
      refine ⟨fun _ c hc => ?_, fun _ => rfl⟩
      cases hc
    | some cell =>
      rw [hcell] at hshown
      subst hshown
      have hretyped := unlessBlank_retyped hw hcell
      exact ⟨fun h c hc => Option.some.inj hc ▸ hretyped.mp h, fun h => hretyped.mpr (h cell rfl)⟩
  refine ⟨fun h => hkey.mp (h.inputs key), fun h => ?_⟩
  refine ⟨sameFrames_writeContents hw hin _, fun k => ?_⟩
  by_cases hk : key = k
  · exact hk ▸ hkey.mpr h
  · rw [Edit.setInput, inputIn_writeContents hw hin, if_neg hk]

/-- A command that types what a cell shows is passed over. -/
theorem Command.execute_setCell_shown {sheet : Nat} {place : CellRef} {input : String}
    (hin : wb.InGrid ⟨sheet, place.row, place.col⟩)
    (hshown : inputTextOf (cellIn wb.sheets ⟨sheet, place.row, place.col⟩) = input)
    (saved : Option Saved) :
    Command.execute ⟨.setCell sheet place input, saved⟩ wb =
      .ok (false, ⟨.setCell sheet place input, saved⟩) wb := by
  obtain ⟨ws, hws, hvalid⟩ := hin
  have hcell : ws.cell? place.row place.col = .ok (ws.get? place.row place.col) := by
    rw [Worksheet.cell?, Worksheet.validate_eq_ok_iff.mpr hvalid]
    rfl
  have hperform : (Action.setCell sheet place input).perform wb = .ok none wb := by
    rw [cellIn_eq hws] at hshown
    refine (Edit.bind_ok (Edit.getSheet_ok hws)).trans ?_
    have hlift : Edit.lift (ws.cell? place.row place.col) wb = .ok _ wb :=
      hcell ▸ Edit.lift_ok (ws.get? place.row place.col) wb
    refine (Edit.bind_ok hlift).trans ?_
    rw [if_pos hshown]
    rfl
  exact Edit.bind_ok hperform

/-- **A command that types what a cell shows already is passed over.** Typing it all the same would
    go through and change the contents of no other cell and the style of none. It would leave the
    cell itself as it is just if there is none or the cell is read back: formulas that go on behind
    the equals sign are, truth values, errors and no value; numbers whose shown digits read as the
    number; texts that are no formula and stand for themselves; dates are not. -/
theorem Command.retyped_unchanged_iff {sheet : Nat} {place : CellRef} {input : String}
    {saved : Option Saved} {c : Command} (hw : wb.WellFormed)
    (hrun : Command.execute ⟨.setCell sheet place input, saved⟩ wb = .ok (false, c) wb') :
    wb' = wb ∧ inputTextOf (cellIn wb.sheets ⟨sheet, place.row, place.col⟩) = input ∧
    ∃ typed, Edit.setInput sheet place.row place.col input wb = .ok () typed ∧
      (∀ k : CellKey, k ≠ ⟨sheet, place.row, place.col⟩ →
        inputIn typed.sheets k = inputIn wb.sheets k) ∧
      (∀ k, Edit.styleIn typed k = Edit.styleIn wb k) ∧
      (SameInputs typed.sheets wb.sheets ↔
        ∀ cell ∈ cellIn wb.sheets ⟨sheet, place.row, place.col⟩, cell.ReadsBack) := by
  obtain ⟨hperform, -, rfl⟩ := Command.execute_eq_false hrun
  obtain ⟨hin, ⟨-, -, hshown⟩ | ⟨hsome, -⟩⟩ := setCell_eq_ok hperform
  · have hok := Edit.writeContents_ok hin (.ofInput input)
    have hafter : (Edit.setInput sheet place.row place.col input).after wb' = _ := Edit.after_ok hok
    have hother : ∀ k : CellKey, k ≠ ⟨sheet, place.row, place.col⟩ →
        inputIn ((Edit.setInput sheet place.row place.col input).after wb').sheets k =
          inputIn wb'.sheets k := fun k hk =>
      (inputIn_writeContents hw hin _ k).trans (if_neg hk.symm)
    refine ⟨rfl, hshown, _, hok, ?_, fun k => ?_, ?_⟩
    · rwa [hafter] at hother
    · rw [← hafter]
      by_cases hk : k = ⟨sheet, place.row, place.col⟩
      · exact hk ▸ styleIn_writeContents hw hin _
      · rw [styleIn_eq_input, hother k hk, styleIn_eq_input]
    · rw [← hafter]
      exact sameInputs_retyped_iff hw hin hshown
  · cases hsome

/-- A new workbook with three tenths, as they come out of a sum, typed into its first cell. -/
def threeTenths : Workbook :=
  (create ⟨20, 10⟩ ⟨default, fun _ => 0⟩).putAll [(⟨0, 0, 0⟩, .ofInput "0.30000000000000004")]

/-- The cell shows `0.3`, and typing that is passed over, although the cell would change. -/
theorem Command.retyped_threeTenths :
    threeTenths.WellFormed ∧
    Command.execute ⟨.setCell 0 (.ofIndices 0 0) "0.3", none⟩ threeTenths =
      .ok (false, ⟨.setCell 0 (.ofIndices 0 0) "0.3", none⟩) threeTenths ∧
    ∃ typed, Edit.setInput 0 0 0 "0.3" threeTenths = .ok () typed ∧
      ¬SameInputs typed.sheets threeTenths.sheets := by
  have hnew := sound_create ⟨20, 10⟩ ⟨default, fun _ => 0⟩
  have hin : (create ⟨20, 10⟩ ⟨default, fun _ => 0⟩).InGrid ⟨0, 0, 0⟩ := ⟨_, rfl, by decide⟩
  have hw : threeTenths.WellFormed :=
    hnew.wellFormed.putAll fun x hx => List.mem_singleton.mp hx ▸ hin
  have hput : threeTenths = (create ⟨20, 10⟩ ⟨default, fun _ => 0⟩).put ⟨0, 0, 0⟩
    (.ofInput "0.30000000000000004") := rfl
  have hin' : threeTenths.InGrid ⟨0, 0, 0⟩ :=
    hin.of_sameFrames (hput ▸ (sameFrames_put _ _ _).symm)
  have hcell : cellIn threeTenths.sheets ⟨0, 0, 0⟩ = some (.ofInput "0.30000000000000004") := by
    rw [hput, cellIn_put hin, if_pos rfl]
    decide +kernel
  have hshown : inputTextOf (cellIn threeTenths.sheets ⟨0, 0, 0⟩) = "0.3" := by
    rw [hcell]
    decide +kernel
  have hrun : Command.execute ⟨.setCell 0 (.ofIndices 0 0) "0.3", none⟩ threeTenths = .ok _ _ :=
    Command.execute_setCell_shown hin' hshown none
  obtain ⟨-, -, typed, hset, -, -, hsame⟩ := Command.retyped_unchanged_iff hw hrun
  refine ⟨hw, hrun, typed, hset, fun h => ?_⟩
  exact absurd (hsame.mp h _ hcell) (by decide +kernel)

end Retyping

end Gridcalc
