import Gridcalc.Proofs.Builtin.Faults
import Gridcalc.Proofs.Builtin.Slicing
import Gridcalc.Proofs.Number.Lengths

/-!
# How long texts get

Repeating and joining give no text over the limit. The functions that cut texts keep to it as well,
as they give no more than they get; but the others write what they come to whatever its length is,
so that a text on the limit may grow over it.

* `Value.WithinLimit`, `Arg.WithinLimit`: what a function is given;
* `Outcome.Gives`: what is known of a result, if there is one;
* `KeepsLimit`: the function gives no text over the limit if it is given none;
* `keepsLimit_iff`: **the functions that keep the limit**, and those that do not.
-/

namespace Gridcalc

open Builtin

/-! ## 1. Values within the limit -/

/-- The value is no text over the limit; a date lies in the calendar. -/
def Value.WithinLimit : Value → Prop
  | .text s => s.length ≤ maxTextLength
  | .date t => t.InCalendar
  | _ => True

/-- All values of the argument are within the limit, the cells of a rectangle too. -/
def Arg.WithinLimit (arg : Arg) : Prop := ∀ v ∈ arg.values, v.WithinLimit

/-- A result, if there is one, has the property. -/
def Outcome.Gives {α : Type} (p : α → Prop) (o : Outcome α) : Prop := ∀ a, o = .ok a → p a

section Limits

variable {α β : Type} {p : α → Prop} {q : β → Prop} {v : Value} {arg : Arg} {args : List Arg}
  {cs : List Char} {i : Nat}

/-- Whatever is shown is within the limit. -/
theorem Value.WithinLimit.length_display (h : v.WithinLimit) :
    v.display.toList.length ≤ maxTextLength := by
  cases v with
  | number x =>
    show (String.ofList (showNumber x)).toList.length ≤ _
    rw [String.toList_ofList]
    exact (length_showNumber_le x).trans (by decide)
  | text s =>
    rw [display_text, String.length_toList]
    exact h
  | boolean b => cases b <;> decide
  | date t =>
    show (String.ofList (momentText t)).toList.length ≤ _
    rw [String.toList_ofList]
    exact (length_momentText_le h).trans (by decide)
  | error e => cases e <;> decide
  | empty => decide

theorem RangeView.mem_values_of_single? {view : RangeView} (h : view.single? = some v) :
    v ∈ view.values := by
  unfold single? at h
  split at h
  · rename_i hone
    have hvalue : view.value 0 0 = view.sheet.valueAt (view.range.cellAt 0).row
        (view.range.cellAt 0).col := by
      unfold value
      rw [if_neg (by unfold rowCount RangeRef.rowCount colCount RangeRef.colCount; omega),
        RangeRef.cellAt, Nat.zero_div, Nat.zero_mod]
      rfl
    cases h
    refine List.mem_map.mpr ⟨_, List.mem_map.mpr ⟨view.range.cellAt 0, ?_, rfl⟩, hvalue.symm⟩
    exact List.mem_of_getElem? (RangeRef.getElem?_cells view.range.cellCount_pos)
  · cases h

theorem Arg.WithinLimit.scalar (h : arg.WithinLimit) : arg.scalar.WithinLimit := by
  cases arg with
  | value v => exact h v List.mem_cons_self
  | range view =>
    show (view.single?.getD (.error .value)).WithinLimit
    cases hsingle : view.single? with
    | none => exact True.intro
    | some v => exact h v (RangeView.mem_values_of_single? hsingle)

theorem withinLimit_scalarAt (h : ∀ arg ∈ args, arg.WithinLimit) (i : Nat) :
    (scalarAt args i).WithinLimit := by
  unfold scalarAt
  cases harg : args[i]? with
  | none => exact True.intro
  | some arg => exact (h arg (List.mem_of_getElem? harg)).scalar

/-! ## 2. Results within the limit -/

namespace Outcome

theorem gives_bind {o : Outcome α} {k : α → Outcome β} (ho : o.Gives p)
    (hk : ∀ a, p a → (k a).Gives q) : (o >>= k).Gives q := by
  cases o with
  | ok a => exact hk a (ho a rfl)
  | error i => exact nofun

theorem gives_true (o : Outcome α) : o.Gives fun _ => True := fun _ _ => True.intro

theorem gives_refuse (e : ErrorValue) : (refuse e : Outcome α).Gives p := nofun

end Outcome

open Outcome

theorem gives_textAt (h : ∀ arg ∈ args, arg.WithinLimit) (i : Nat) :
    (textAt args i).Gives fun cs => cs.length ≤ maxTextLength := by
  have hshown := (withinLimit_scalarAt h i).length_display
  intro cs hcs
  unfold textAt at hcs
  cases herror : (scalarAt args i).isError with
  | true =>
    obtain ⟨e, he⟩ := Value.isError_iff.mp herror
    rw [he] at hcs
    cases hcs
  | false =>
    rw [Value.toText_ok herror] at hcs
    cases hcs
    exact hshown

theorem gives_textResult (h : cs.length ≤ maxTextLength) :
    (textResult cs).Gives Value.WithinLimit := by
  intro v hv
  cases hv
  show (String.ofList cs).length ≤ maxTextLength
  rwa [← String.length_toList, String.toList_ofList]

theorem gives_countResult (n : Nat) : (countResult n).Gives Value.WithinLimit := by
  intro v hv
  cases hv
  exact True.intro

theorem length_intercalate (separator : List Char) (texts : List (List Char)) :
    (separator.intercalate texts).length =
      (texts.map List.length).sum + (texts.length - 1) * separator.length := by
  induction texts with
  | nil => simp [List.intercalate]
  | cons t ts ih =>
    cases ts with
    | nil => simp [List.intercalate]
    | cons t' ts =>
      rw [List.intercalate_cons_cons, List.length_append, List.length_append, ih]
      simp only [List.map_cons, List.sum_cons, List.length_cons, Nat.add_sub_cancel,
        Nat.add_one_mul]
      omega

/-- Leaving out some texts, what is joined gets no longer. -/
theorem length_intercalate_le {separator : List Char} {texts texts' : List (List Char)}
    (h : texts.Sublist texts') :
    (separator.intercalate texts).length ≤ (separator.intercalate texts').length := by
  have hsum := (h.map List.length).sum_le_sum fun _ _ => Nat.zero_le _
  have hgaps : (texts.length - 1) * separator.length ≤ (texts'.length - 1) * separator.length :=
    Nat.mul_le_mul_right _ (Nat.sub_le_sub_right h.length_le 1)
  rw [length_intercalate, length_intercalate]
  exact Nat.add_le_add hsum hgaps

/-- The words of a text with single spaces between them. -/
theorem length_words_le (cs : List Char) :
    (List.intercalate [' '] (Text.wordsOf cs)).length ≤ cs.length :=
  (length_intercalate_le List.filter_sublist).trans_eq
    (congrArg List.length (List.intercalate_splitOn ' '))

/-! ## 3. Functions that keep the limit -/

section Keepers

variable (ctx : Context) (h : ∀ arg ∈ args, arg.WithinLimit)

include h

theorem gives_leftEnd : (leftEnd args ctx).Gives Value.WithinLimit :=
  gives_bind (gives_textAt h 0) fun _ hs => gives_bind (gives_true _) fun _ _ =>
    gives_textResult ((List.length_take_le' _ _).trans hs)

theorem gives_rightEnd : (rightEnd args ctx).Gives Value.WithinLimit :=
  gives_bind (gives_textAt h 0) fun _ hs => gives_bind (gives_true _) fun _ _ =>
    gives_textResult ((List.drop_sublist _ _).length_le.trans hs)

theorem gives_middle : (middle args ctx).Gives Value.WithinLimit :=
  gives_bind (gives_textAt h 0) fun _ hs => gives_bind (gives_true _) fun _ _ =>
    gives_bind (gives_true _) fun _ _ =>
      gives_textResult (((List.take_sublist _ _).trans (List.drop_sublist _ _)).length_le.trans hs)

theorem gives_trimSpaces : (trimSpaces args ctx).Gives Value.WithinLimit :=
  gives_bind (gives_textAt h 0) fun s hs => gives_textResult ((length_words_le s).trans hs)

omit h

theorem gives_length : (length args ctx).Gives Value.WithinLimit :=
  gives_bind (gives_true _) fun _ _ => gives_countResult _

theorem gives_find : (find args ctx).Gives Value.WithinLimit :=
  gives_bind (gives_true _) fun _ _ => gives_bind (gives_true _) fun _ _ => gives_countResult _

theorem gives_search : (search args ctx).Gives Value.WithinLimit := by
  refine gives_bind (gives_true _) fun ⟨needle, _, _⟩ _ => ?_
  dsimp only
  split
  · exact gives_countResult _
  · exact gives_bind (gives_true _) fun _ _ => gives_countResult _

/-- What would be over the limit is refused. -/
theorem gives_repeatText : (repeatText args ctx).Gives Value.WithinLimit := by
  refine gives_bind (gives_true _) fun s _ => gives_bind (gives_true _) fun n _ => ?_
  split
  · exact gives_refuse .value
  · rename_i hlimit
    refine gives_textResult ?_
    split
    · exact Nat.zero_le _
    · rw [List.length_flatten, List.map_replicate, List.sum_replicate, smul_eq_mul, Nat.mul_comm]
      exact Nat.not_lt.mp hlimit

/-- What would be over the limit is refused. -/
theorem gives_joinTexts : (joinTexts args ctx).Gives Value.WithinLimit := by
  refine gives_bind (gives_true _) fun separator _ => gives_bind (gives_true _) fun skipsEmpty _ =>
    gives_bind (gives_true _) fun texts _ => ?_
  dsimp only
  generalize List.intercalate separator _ = joined
  split
  · exact gives_refuse .value
  · rename_i hlimit
    exact gives_textResult (Nat.not_lt.mp hlimit)

end Keepers

end Limits

/-- The function gives no text over the limit if it is given none, and always a value. -/
def KeepsLimit (f : Builtin) : Prop :=
  ∀ args ctx, (∀ arg ∈ args, arg.WithinLimit) →
    ∃ v, (f.run args ctx).settle = .ok v ∧ v.WithinLimit

/-- The functions that write what they come to whatever its length is. -/
def unlimitedNames : List String :=
  ["SUBSTITUTE", "REPLACE", "PROPER", "UPPER", "LOWER", "TEXT", "CONCAT", "CONCATENATE"]

/-- No function of texts has a fault. -/
theorem not_source_of_mem_text {f : Builtin} (hf : f ∈ textBuiltins) (fault : Fault) :
    f.name ∉ fault.sources := by
  have hnames : ∀ name ∈ textBuiltins.map Builtin.name, ∀ fault : Fault, name ∉ fault.sources := by
    intro name hname fault
    cases fault <;> revert name <;> decide
  exact hnames _ (List.mem_map_of_mem hf) fault

theorem keepsLimit_of_gives {f : Builtin} (hf : f ∈ textBuiltins)
    (h : ∀ args ctx, (∀ arg ∈ args, arg.WithinLimit) → (f.run args ctx).Gives Value.WithinLimit) :
    KeepsLimit f := by
  intro args ctx hargs
  have hgives := h args ctx hargs
  have hfaults := faultsAsListed_text f hf args ctx
  cases hrun : f.run args ctx with
  | ok v => exact ⟨v, rfl, hgives v hrun⟩
  | error i =>
    cases i with
    | error e => exact ⟨.error e, rfl, True.intro⟩
    | fault fault =>
      exact absurd (hfaults fault hrun) (not_source_of_mem_text hf fault)

/-! ## 4. Functions that do not keep it -/

/-- Given values within the limit, and as many as it takes, the function gives a text over it. -/
def Outgrows (f : Builtin) : Prop :=
  ∃ args ctx, (∀ arg ∈ args, arg.WithinLimit) ∧ f.accepts args.length = true ∧
    ∃ s, f.run args ctx = .ok (.text s) ∧ maxTextLength < s.length

/-- So many letters. -/
def letters (n : Nat) : List Char := List.replicate n 'x'

section Growers

variable {f : Builtin} {args : List Arg} {cs : List Char}

theorem withinLimit_value {v : Value} (h : v.WithinLimit) : (Arg.value v).WithinLimit := by
  intro w hw
  rwa [List.mem_singleton.mp hw]

theorem withinLimit_number (x : Float) : (Arg.value (.number x)).WithinLimit :=
  withinLimit_value (v := .number x) True.intro

theorem withinLimit_text (h : cs.length ≤ maxTextLength) :
    (Arg.value (.text (String.ofList cs))).WithinLimit := by
  refine withinLimit_value (show (String.ofList cs).length ≤ _ from ?_)
  rwa [← String.length_toList, String.toList_ofList]

/-- What is over the limit is written as it is. -/
theorem outgrows_of_run (hargs : ∀ arg ∈ args, arg.WithinLimit)
    (haccepts : f.accepts args.length = true) (hrun : f.run args emptyContext = textResult cs)
    (hlong : maxTextLength < cs.length) : Outgrows f := by
  refine ⟨args, emptyContext, hargs, haccepts, _, hrun, ?_⟩
  rwa [← String.length_toList, String.toList_ofList]

theorem length_letters (n : Nat) : (letters n).length = n := List.length_replicate

theorem flatMap_letters {g : Char → List Char} {c : Char} (hg : g 'x' = [c]) (n : Nat) :
    (letters n).flatMap g = List.replicate n c := by
  induction n with
  | zero => rfl
  | succ n ih =>
    show g 'x' ++ (letters n).flatMap g = _
    rw [hg, ih]
    rfl

/-- Letters behind a letter stay as they are. -/
theorem properCase_letters (n : Nat) : properCase true (letters n) = letters n := by
  have hletter : Text.isLetter 'x' = true := Text.isLetter_of_isAlpha (by decide)
  have hsmall : Text.small 'x' = ['x'] := by decide
  induction n with
  | zero => rfl
  | succ n ih =>
    show (if Text.isLetter 'x' then (if true then Text.small 'x' else Text.capital 'x') ++
      properCase true (letters n) else _) = _
    rw [if_pos hletter, if_pos rfl, hsmall, ih]
    rfl

/-- A text on the limit and another one behind it. -/
theorem outgrows_join (haccepts : f.accepts 2 = true)
    (hrun : ∀ s, f.run [.value (.text s), .value (.text "y")] emptyContext =
      textResult (s.toList ++ ['y'])) : Outgrows f := by
  refine outgrows_of_run (List.forall_mem_cons.mpr ⟨?_, List.forall_mem_singleton.mpr ?_⟩)
    haccepts (hrun (String.ofList (letters maxTextLength))) ?_
  · exact withinLimit_text (length_letters _).le
  · exact withinLimit_value (show "y".length ≤ maxTextLength by decide)
  · rw [String.toList_ofList, List.length_append, length_letters]
    decide

/-- A text on the limit that becomes longer with its first character. -/
theorem outgrows_convert {name : String} {g : List Char → List Char} {c : Char}
    (hlong : maxTextLength < (g (c :: letters (maxTextLength - 1))).length) :
    Outgrows (scalarBuiltin name 1 (some 1) (convertText g)) := by
  let s := String.ofList (c :: letters (maxTextLength - 1))
  have hrun : convertText g [.value (.text s)] emptyContext = textResult (g s.toList) := rfl
  refine outgrows_of_run (List.forall_mem_singleton.mpr (withinLimit_text ?_)) (by rfl) hrun ?_
  · rw [List.length_cons, length_letters]
    decide
  · rwa [String.toList_ofList]

/-- A sharp s becomes two capitals. -/
theorem outgrows_upper :
    Outgrows (scalarBuiltin "UPPER" 1 (some 1) (convertText Text.uppercase)) := by
  refine outgrows_convert (c := 'ß') ?_
  have hfirst : Text.capital 'ß' = ['S', 'S'] := by decide
  have hrest := flatMap_letters (g := Text.capital) (c := 'X') (by decide) (maxTextLength - 1)
  rw [Text.uppercase, List.flatMap_cons, hfirst, hrest, List.length_append, List.length_replicate]
  decide

/-- So it does at the start of a word. -/
theorem outgrows_proper :
    Outgrows (scalarBuiltin "PROPER" 1 (some 1) (convertText (properCase false))) := by
  refine outgrows_convert (c := 'ß') ?_
  have hletter : Text.isLetter 'ß' = true := by
    -- a list is folded over faster than an array
    simp only [Text.isLetter, Text.inBounds, ← Array.foldl_toList]
    decide +kernel
  have hfirst : Text.capital 'ß' = ['S', 'S'] := by decide
  rw [properCase, if_pos hletter, if_neg Bool.false_ne_true, hfirst, properCase_letters,
    List.length_append, length_letters]
  decide

/-- A dotted capital I becomes a small letter and a combining point. -/
theorem outgrows_lower :
    Outgrows (scalarBuiltin "LOWER" 1 (some 1) (convertText Text.lowercase)) := by
  refine outgrows_convert (c := 'İ') ?_
  have hsigma : ¬('İ'.toNat = 0x3A3) := by decide
  have hfirst : (Text.small 'İ').length = 2 := by decide
  have hrest : Text.lowercaseAfter ['İ'] (letters (maxTextLength - 1)) =
      (letters (maxTextLength - 1)).map Char.toLower := by
    refine Text.lowercaseAfter_ascii _ _ fun c hc => ?_
    rw [List.eq_of_mem_replicate hc]
    decide
  rw [Text.lowercase, Text.lowercaseAfter, if_neg hsigma, hrest, List.length_append, hfirst,
    List.length_map, length_letters]
  decide

/-! ### Texts put in -/

theorem substitute_all {ctx : Context} {text old new : List Char}
    (htext : textAt args 0 = .ok text) (hold : textAt args 1 = .ok old)
    (hnew : textAt args 2 = .ok new) (hne : old.isEmpty = false) (hcount : args.length < 4) :
    substitute args ctx = textResult (Text.replaceAll old new text) := by
  unfold substitute
  rw [htext, hold, hnew]
  show (if old.isEmpty then textResult text else if args.length < 4 then
    textResult (Text.replaceAll old new text) else _) = _
  rw [if_neg (by rw [hne]; exact Bool.false_ne_true), if_pos hcount]

theorem substitute_first (t : String) (ctx : Context) :
    substitute [.value (.text "xy"), .value (.text "x"), .value (.text t)] ctx =
      textResult (t.toList ++ ['y']) := by
  let args : List Arg := [.value (.text "xy"), .value (.text "x"), .value (.text t)]
  have htext : textAt args 0 = .ok ['x', 'y'] :=
    congrArg Except.ok (show "xy".toList = ['x', 'y'] by decide)
  have hold : textAt args 1 = .ok ['x'] := congrArg Except.ok (show "x".toList = ['x'] by decide)
  have hnew : textAt args 2 = .ok t.toList := rfl
  exact substitute_all htext hold hnew rfl (Nat.lt_succ_self 3)

theorem replace_front {x y : Float} (hx : IsNatural x 1) (hy : IsNatural y 0) (t : String)
    (ctx : Context) : replace [.value (.text "y"), .value (.number x), .value (.number y),
      .value (.text t)] ctx = textResult (t.toList ++ ['y']) := by
  let args : List Arg :=
    [.value (.text "y"), .value (.number x), .value (.number y), .value (.text t)]
  have hplace : placeAt args 1 1 = .ok (min 0 (2 ^ 64 - 2)) := placeAt_eq rfl hx
  have hcount : countAt args 2 0 = .ok (min 0 (2 ^ 64 - 1)) := countAt_eq rfl hy
  have htext : "y".toList = ['y'] := by decide
  show (placeAt args 1 1 >>= fun place => countAt args 2 0 >>= fun n =>
    textResult (Text.splice place n t.toList "y".toList)) = _
  rw [hplace, hcount, htext, Nat.zero_min, Nat.zero_min]
  rfl

theorem outgrows_substitute : Outgrows (scalarBuiltin "SUBSTITUTE" 3 (some 4) substitute) := by
  refine outgrows_of_run
    (List.forall_mem_cons.mpr ⟨?_, List.forall_mem_cons.mpr ⟨?_, List.forall_mem_singleton.mpr ?_⟩⟩)
    (by rfl) (substitute_first (String.ofList (letters maxTextLength)) emptyContext) ?_
  · exact withinLimit_value (show "xy".length ≤ maxTextLength by decide)
  · exact withinLimit_value (show "x".length ≤ maxTextLength by decide)
  · exact withinLimit_text (length_letters _).le
  · rw [String.toList_ofList, List.length_append, length_letters]
    decide

theorem outgrows_replace : Outgrows (scalarBuiltin "REPLACE" 4 (some 4) replace) := by
  refine outgrows_of_run (List.forall_mem_cons.mpr ⟨?_,
      List.forall_mem_cons.mpr ⟨withinLimit_number _,
      List.forall_mem_cons.mpr ⟨withinLimit_number _, List.forall_mem_singleton.mpr ?_⟩⟩⟩)
    (by rfl) (replace_front (isNatural_ofNat (by decide)) (isNatural_ofNat (by decide))
      (String.ofList (letters maxTextLength)) emptyContext) ?_
  · exact withinLimit_value (show "y".length ≤ maxTextLength by decide)
  · exact withinLimit_text (length_letters _).le
  · rw [String.toList_ofList, List.length_append, length_letters]
    decide

/-! ### Numbers in pictures -/

theorem splitSections_letters (n : Nat) :
    splitSections false (letters n ++ ['0']) = [letters n ++ ['0']] := by
  induction n with
  | zero => rfl
  | succ n ih =>
    show consSection 'x' (splitSections false (letters n ++ ['0'])) = _
    rw [ih]
    rfl

/-- The pieces of letters with one place for digits behind them. -/
def letterPieces (n : Nat) : List PicturePiece :=
  List.replicate n (.literal ['x']) ++ [.digits ['0']]

theorem readPieces_letters (n : Nat) : readPieces (letters n ++ ['0']) = letterPieces n := by
  induction n with
  | zero => decide +kernel
  | succ n ih =>
    have hpiece : readPiece 'x' (letters n ++ ['0']) = (.literal ['x'], 0) := rfl
    show readPieces ('x' :: (letters n ++ ['0'])) = _
    rw [readPieces, hpiece, List.drop_zero, ih]
    rfl

theorem nextPart?_letterPieces (n : Nat) : nextPart? (letterPieces n) = none := by
  induction n with
  | zero => rfl
  | succ n ih => exact ih

theorem digitSigns?_letterPieces (n : Nat) : digitSigns? (letterPieces n) = some ['0'] := by
  induction n with
  | zero => rfl
  | succ n ih => exact ih

theorem count_letterPieces (n : Nat) : (letterPieces n).count .percent = 0 := by
  induction n with
  | zero => decide
  | succ n ih => exact (List.count_cons_of_ne (by decide)).trans ih

theorem placeDigits_letterPieces (body : List Char) (n : Nat) :
    placeDigits body false (letterPieces n) = letters n ++ body := by
  induction n with
  | zero => exact List.append_nil body
  | succ n ih => exact congrArg (List.cons 'x') ih

/-- Ten takes two digits where the picture has one place. -/
theorem showNumberWith_letters (n : Nat) :
    showNumberWith (letters n ++ ['0']) (Float.ofNat 10) = .ok (letters n ++ ['1', '0']) := by
  have hbody : fixedPicture (Float.ofNat 10 * powerOf 100 (0 : Nat)).abs ['0'] = ['1', '0'] := by
    decide +kernel
  have hpositive : ¬Float.ofNat 10 * powerOf 100 (0 : Nat) < 0 := by decide +kernel
  have hpicture : numberPicture (letterPieces n) (Float.ofNat 10) true =
      letters n ++ ['1', '0'] := by
    unfold numberPicture
    rw [count_letterPieces, digitSigns?_letterPieces]
    have hplain : ['0'].contains 'E' = false := by decide
    simp only [hplain, Bool.false_eq_true, if_false, hbody, hpositive, decide_false,
      Bool.and_false, Bool.false_and, placeDigits_letterPieces]
    rfl
  unfold showNumberWith
  rw [splitSections_letters]
  dsimp only
  rw [readPieces_letters, nextPart?_letterPieces, hpicture]
  rfl

theorem textWithPicture_number (x : Float) (picture : String) (ctx : Context) :
    textWithPicture [.value (.number x), .value (.text picture)] ctx =
      (Outcome.lift (showNumberWith picture.toList x) >>= textResult) := rfl

theorem outgrows_textWithPicture : Outgrows (scalarBuiltin "TEXT" 2 (some 2) textWithPicture) := by
  let picture := letters (maxTextLength - 1) ++ ['0']
  have hrun : textWithPicture [.value (.number (Float.ofNat 10)),
      .value (.text (String.ofList picture))] emptyContext =
        textResult (letters (maxTextLength - 1) ++ ['1', '0']) := by
    rw [textWithPicture_number, String.toList_ofList, showNumberWith_letters]
    rfl
  refine outgrows_of_run
    (List.forall_mem_cons.mpr ⟨withinLimit_number _, List.forall_mem_singleton.mpr ?_⟩)
    (by rfl) hrun ?_
  · refine withinLimit_text ?_
    rw [List.length_append, length_letters]
    decide
  · rw [List.length_append, length_letters]
    decide

end Growers

/-! ## 5. Which functions keep it -/

theorem gives_of_not_unlimited : ∀ f ∈ textBuiltins, f.name ∉ unlimitedNames →
    ∀ args ctx, (∀ arg ∈ args, arg.WithinLimit) → (f.run args ctx).Gives Value.WithinLimit := by
  have hlisted {p : Prop} {name : String} (hin : name ∈ unlimitedNames)
      (hout : name ∉ unlimitedNames) : p := absurd hin hout
  simp only [textBuiltins, List.forall_mem_cons, List.not_mem_nil, false_implies, implies_true,
    and_true]
  exact ⟨fun _ _ => gives_leftEnd, fun _ _ => gives_rightEnd, fun _ _ => gives_middle,
    fun _ _ ctx _ => gives_length ctx, fun _ _ ctx _ => gives_find ctx,
    fun _ _ ctx _ => gives_search ctx, hlisted (by decide), hlisted (by decide),
    fun _ _ => gives_trimSpaces, hlisted (by decide), hlisted (by decide), hlisted (by decide),
    fun _ _ ctx _ => gives_repeatText ctx, hlisted (by decide),
    fun _ _ ctx _ => gives_joinTexts ctx, hlisted (by decide), hlisted (by decide)⟩

theorem outgrows_of_unlimited : ∀ f ∈ textBuiltins, f.name ∈ unlimitedNames → Outgrows f := by
  have hkept {p : Prop} {name : String} (hout : name ∉ unlimitedNames)
      (hin : name ∈ unlimitedNames) : p := absurd hin hout
  simp only [textBuiltins, List.forall_mem_cons, List.not_mem_nil, false_implies, implies_true,
    and_true]
  exact ⟨hkept (by decide), hkept (by decide), hkept (by decide), hkept (by decide),
    hkept (by decide), hkept (by decide), fun _ => outgrows_substitute, fun _ => outgrows_replace,
    hkept (by decide), fun _ => outgrows_proper, fun _ => outgrows_upper, fun _ => outgrows_lower,
    hkept (by decide), fun _ => outgrows_textWithPicture, hkept (by decide),
    fun _ => outgrows_join rfl fun _ => rfl, fun _ => outgrows_join rfl fun _ => rfl⟩

/-- A function that outgrows the limit does not keep it. -/
theorem Outgrows.not_keepsLimit {f : Builtin} (h : Outgrows f) : ¬KeepsLimit f := by
  obtain ⟨args, ctx, hargs, -, s, hrun, hlong⟩ := h
  intro hkeeps
  obtain ⟨v, hv, hwithin⟩ := hkeeps args ctx hargs
  rw [hrun] at hv
  obtain rfl : Value.text s = v := Except.ok.inj hv
  exact absurd (show s.length ≤ maxTextLength from hwithin) (Nat.not_le.mpr hlong)

/-- **The functions of texts that keep the limit are the ones that cut, measure, search, trim,
    repeat and join with a separator.** Given no text over the limit they come to an error, to
    another value or to a text within it. Each of the others comes to a text over the limit for
    some arguments that it takes, all of them within the limit. -/
theorem keepsLimit_iff (f : Builtin) (hf : f ∈ textBuiltins) :
    (KeepsLimit f ↔ f.name ∉ unlimitedNames) ∧ (f.name ∈ unlimitedNames → Outgrows f) :=
  ⟨⟨fun hkeeps hin => (outgrows_of_unlimited f hf hin).not_keepsLimit hkeeps,
      fun hout => keepsLimit_of_gives hf (gives_of_not_unlimited f hf hout)⟩,
    outgrows_of_unlimited f hf⟩

/-- Joining with a separator keeps the limit, joining without does not. -/
theorem keepsLimit_textJoin_not_concatenate :
    (∀ f ∈ textBuiltins, f.name = "TEXTJOIN" → KeepsLimit f) ∧
      ¬KeepsLimit (scalarBuiltin "CONCATENATE" 1 none concatScalars) := by
  refine ⟨fun f hf hname => (keepsLimit_iff f hf).1.mpr ?_, fun hkeeps => ?_⟩
  · rw [hname]
    decide
  · exact (keepsLimit_iff (scalarBuiltin "CONCATENATE" 1 none concatScalars)
      (by simp [textBuiltins])).1.mp hkeeps (by decide)

end Gridcalc
