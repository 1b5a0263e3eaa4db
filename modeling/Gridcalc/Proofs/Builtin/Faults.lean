import Gridcalc.Builtin.Registry

/-!
# Which functions may fault

Nearly every function comes to a value or an error value, whatever its arguments are. The exceptions
are the functions of ranks and the one that draws between bounds.

* `Outcome.FaultsOnly`: an outcome has no faults but some; it is pushed through the functions by
  `simp`;
* `Fault.sources`: the functions that have a fault;
* `Builtin.ranked_eq_fault_iff`: a rank faults if it passes for one without being one;
* `Builtin.faultsAsListed_of_mem`: **every function of the table** has only the faults that it is a
  source of.
-/

namespace Gridcalc

/-! ## 1. Outcomes with few faults -/

namespace Outcome

variable {α β : Type} {allowed : Fault → Prop}

/-- The outcome has none but the allowed faults. -/
def FaultsOnly (allowed : Fault → Prop) (o : Outcome α) : Prop :=
  ∀ f, o = .error (.fault f) → allowed f

@[simp] theorem faultsOnly_ok (a : α) : FaultsOnly allowed (.ok a) := by
  intro f h
  cases h

@[simp] theorem faultsOnly_pure (a : α) : FaultsOnly allowed (pure a) := faultsOnly_ok a

@[simp] theorem faultsOnly_refuse (e : ErrorValue) :
    FaultsOnly allowed (refuse e : Outcome α) := by
  intro f h
  cases h

@[simp] theorem faultsOnly_fault {f : Fault} :
    FaultsOnly allowed (.error (.fault f) : Outcome α) ↔ allowed f := by
  constructor
  · exact fun h => h f rfl
  · intro h f' e
    cases e
    exact h

@[simp] theorem faultsOnly_lift (x : Except ErrorValue α) : FaultsOnly allowed (lift x) := by
  cases x
  · exact faultsOnly_refuse _
  · exact faultsOnly_ok _

@[simp] theorem faultsOnly_orRefuse (e : ErrorValue) (x : Option α) :
    FaultsOnly allowed (orRefuse e x) := by
  cases x
  · exact faultsOnly_refuse e
  · exact faultsOnly_ok _

/-- A step and whatever comes after it. -/
@[simp] theorem faultsOnly_bind {o : Outcome α} {k : α → Outcome β} :
    FaultsOnly allowed (o >>= k) ↔
      FaultsOnly allowed o ∧ ∀ a, o = .ok a → FaultsOnly allowed (k a) := by
  cases o with
  | ok a => simp [bind, Except.bind]
  | error i =>
    refine ⟨fun h => ⟨fun f hf => ?_, by simp⟩, fun h f hf => ?_⟩
    · cases hf
      exact h f rfl
    · cases hf
      exact h.1 f rfl

@[simp] theorem faultsOnly_map {o : Outcome α} {g : α → β} :
    FaultsOnly allowed (o.map g) ↔ FaultsOnly allowed o := by
  cases o with
  | ok a => simp [Except.map]
  | error i =>
    refine ⟨fun h f hf => ?_, fun h f hf => ?_⟩ <;>
    · cases hf
      exact h f rfl

@[simp] theorem faultsOnly_mapped {o : Outcome α} {g : α → β} :
    FaultsOnly allowed (g <$> o) ↔ FaultsOnly allowed o := faultsOnly_map

@[simp] theorem faultsOnly_ite {p : Prop} [Decidable p] {o o' : Outcome α} :
    FaultsOnly allowed (if p then o else o') ↔
      (p → FaultsOnly allowed o) ∧ (¬p → FaultsOnly allowed o') := by
  split <;> simp [*]

end Outcome

/-! ## 2. Readers -/

namespace Builtin

open Outcome

variable {allowed : Fault → Prop} {args : List Arg} {ctx : Context} {i : Nat}

@[simp] theorem faultsOnly_numberAt : FaultsOnly allowed (numberAt args i) := by
  simp [numberAt]

@[simp] theorem faultsOnly_textAt : FaultsOnly allowed (textAt args i) := by
  simp [textAt]

@[simp] theorem faultsOnly_numberAtOr {d : Float} : FaultsOnly allowed (numberAtOr args i d) := by
  unfold numberAtOr
  split <;> simp

@[simp] theorem faultsOnly_booleanAtOr {d : Bool} :
    FaultsOnly allowed (booleanAtOr args i d) := by
  unfold booleanAtOr
  split <;> simp

@[simp] theorem faultsOnly_rangeAt : FaultsOnly allowed (rangeAt args i) := by
  unfold rangeAt
  split <;> simp

@[simp] theorem faultsOnly_countAt {d : Float} : FaultsOnly allowed (countAt args i d) := by
  simp [countAt]

@[simp] theorem faultsOnly_placeAt {d : Float} : FaultsOnly allowed (placeAt args i d) := by
  simp [placeAt]

@[simp] theorem faultsOnly_numbersOfCells {vs : List Value} :
    FaultsOnly allowed (numbersOfCells vs) := by
  unfold numbersOfCells
  split <;> simp

@[simp] theorem faultsOnly_numbersOf : FaultsOnly allowed (numbersOf args) := by
  have harg : ∀ arg, FaultsOnly allowed (numbersOfArg arg) := by
    intro arg
    unfold numbersOfArg
    split <;> simp
  induction args with
  | nil => simp [numbersOf]
  | cons arg args ih => simp [numbersOf, harg, ih]

@[simp] theorem faultsOnly_numberResult {x : Float} : FaultsOnly allowed (numberResult x) :=
  faultsOnly_ok _

@[simp] theorem faultsOnly_countResult {n : Nat} : FaultsOnly allowed (countResult n) :=
  faultsOnly_ok _

@[simp] theorem faultsOnly_textResult {cs : List Char} : FaultsOnly allowed (textResult cs) :=
  faultsOnly_ok _

@[simp] theorem faultsOnly_booleanResult {b : Bool} : FaultsOnly allowed (booleanResult b) :=
  faultsOnly_ok _

@[simp] theorem faultsOnly_conditionalNumbers :
    FaultsOnly allowed (conditionalNumbers args) := by
  simp [conditionalNumbers, numbersBeside]

@[simp] theorem faultsOnly_gather {rules : SkipRules} :
    FaultsOnly allowed (gather rules args) := by
  have harg : ∀ arg, FaultsOnly allowed (gatherArg rules arg) := by
    intro arg
    unfold gatherArg
    split <;> (try split) <;> simp
  induction args with
  | nil => simp [gather]
  | cons arg args ih => simp [gather, harg, ih]

@[simp] theorem faultsOnly_truthsOf : FaultsOnly allowed (truthsOf args) := by
  have harg : ∀ arg, FaultsOnly allowed (truthsOfArg arg) := by
    intro arg
    unfold truthsOfArg
    split <;> (try split) <;> simp
  have hargs : ∀ args, FaultsOnly allowed (truthsOfArgs args) := by
    intro args
    induction args with
    | nil => simp [truthsOfArgs]
    | cons arg args ih => simp [truthsOfArgs, harg, ih]
  simp [truthsOf, hargs]

@[simp] theorem faultsOnly_soughtAt : FaultsOnly allowed (soughtAt args) := by
  unfold soughtAt
  split <;> simp

@[simp] theorem faultsOnly_searchArguments : FaultsOnly allowed (searchArguments args) := by
  simp [searchArguments]

@[simp] theorem faultsOnly_textsOf {vs : List Value} : FaultsOnly allowed (textsOf vs) := by
  unfold textsOf
  split <;> simp

@[simp] theorem faultsOnly_serialAt : FaultsOnly allowed (serialAt args i) := by
  simp [serialAt]

/-! ## 3. Ranks and draws -/

/-- **A rank faults** if it is neither below one nor above the number of values, rounded up, and yet
    counts no place of them. -/
theorem ranked_eq_fault_iff {sorted : List Float} {k : Float} {f : Fault} :
    ranked sorted k = .error (.fault f) ↔ f = .noSuchRank ∧
      ((ceilingOf k < 1 || Float.ofNat sorted.length < ceilingOf k) = false) ∧
      (toCount (ceilingOf k) = 0 ∨ sorted.length < toCount (ceilingOf k)) := by
  unfold ranked
  dsimp only
  split
  · rename_i hrefused
    simp [refuse, hrefused]
  · rename_i hpassed
    rw [Bool.not_eq_true] at hpassed
    cases hcount : toCount (ceilingOf k) with
    | zero => simp [hpassed, eq_comm]
    | succ n =>
      by_cases hn : n < sorted.length
      · have hle : ¬sorted.length < n + 1 := by omega
        simp [hn, hle, numberResult]
      · have hlt : sorted.length < n + 1 := by omega
        simp [hn, hlt, hpassed, eq_comm]

/-- Ranks have no other fault. -/
theorem faultsOnly_ranked {sorted : List Float} {k : Float} :
    FaultsOnly (· = .noSuchRank) (ranked sorted k) := fun _ h => (ranked_eq_fault_iff.mp h).1

/-- Most summaries do not fault, and the ranks among them only as ranks do. -/
theorem faultsOnly_summarise {code : Int} {g : Gathered} {k : Option Float} :
    FaultsOnly (· = .noSuchRank) (summarise code g k) := by
  unfold summarise
  dsimp only
  split <;> simp [kthLargest, kthSmallest, faultsOnly_ranked]

/-- Without a rank there is no fault. -/
theorem faultsOnly_summarise_of_lt {code : Int} (hcode : code < 14) {g : Gathered}
    {k : Option Float} : FaultsOnly allowed (summarise code g k) := by
  unfold summarise
  dsimp only
  split <;> first | omega | simp

/-- The codes of subtotals, those without hidden rows included, are codes below the ranks. -/
theorem faultsOnly_subtotal : FaultsOnly allowed (subtotal args ctx) := by
  simp only [subtotal, faultsOnly_bind, faultsOnly_numberAt, faultsOnly_ite, true_and]
  intro x _
  refine ⟨fun hcode => ⟨faultsOnly_pure _, fun choice hchoice => ?_⟩,
    fun _ => ⟨fun hcode => ⟨faultsOnly_pure _, fun choice hchoice => ?_⟩,
      fun _ => ⟨faultsOnly_refuse _, fun _ h => nomatch h⟩⟩⟩
  · cases hchoice
    have hrank : toWord (wholeOf x) < 14 := by omega
    simp [faultsOnly_summarise_of_lt hrank]
  · cases hchoice
    have hrank : toWord (wholeOf x) - 100 < 14 := by omega
    simp [faultsOnly_summarise_of_lt hrank]

/-! ## 4. Functions that choose by cases -/

theorem faultsOnly_insteadOfError : FaultsOnly allowed (insteadOfError args ctx) := by
  unfold insteadOfError
  split <;> simp

theorem faultsOnly_parallelLookup : FaultsOnly allowed (parallelLookup args ctx) := by
  simp only [parallelLookup, faultsOnly_bind, faultsOnly_soughtAt, faultsOnly_rangeAt,
    faultsOnly_orRefuse, faultsOnly_numberAtOr, true_and]
  intros
  split <;> simp

theorem faultsOnly_valueOfText : FaultsOnly allowed (valueOfText args ctx) := by
  unfold valueOfText
  split <;> simp

end Builtin

/-! ## 5. The table -/

/-- The names of the functions that have a fault. -/
def Fault.sources : Fault → List String
  | .noSuchRank => ["LARGE", "SMALL", "AGGREGATE"]
  | .emptyDraw => ["RANDBETWEEN"]

namespace Builtin

open Outcome

/-- A function has no faults but those that it is a source of. -/
def FaultsAsListed (f : Builtin) : Prop :=
  ∀ args ctx, FaultsOnly (f.name ∈ ·.sources) (f.run args ctx)

theorem faultsAsListed_arithmetic : ∀ f ∈ arithmeticBuiltins, f.FaultsAsListed := by
  simp [arithmeticBuiltins, FaultsAsListed, flatBuiltin, scalarBuiltin, volatileBuiltin, sum,
    productOfAll, absolute, remainder, integerBelow, round, roundUp, roundDown, placesAt, sumIf,
    random, randomBetween, Fault.sources]

theorem faultsAsListed_summary : ∀ f ∈ summaryBuiltins, f.FaultsAsListed := by
  have hrank : ∀ {o : Outcome Value} {name : String}, name ∈ Fault.noSuchRank.sources →
      FaultsOnly (· = .noSuchRank) o → FaultsOnly (name ∈ ·.sources) o := by
    intro o name hname h f hf
    rw [h f hf]
    exact hname
  simp only [summaryBuiltins, FaultsAsListed, List.forall_mem_cons, List.not_mem_nil, false_implies,
    implies_true, and_true]
  refine ⟨?_, ?_, ?_, ?_, ?_, ?_, ?_, fun args ctx => hrank (by decide) ?_,
    fun args ctx => hrank (by decide) ?_, ?_, ?_, fun _ _ => faultsOnly_subtotal,
    fun args ctx => hrank (by decide) ?_⟩
  case refine_8 => simp [large, kthLargest, faultsOnly_ranked]
  case refine_9 => simp [small, kthSmallest, faultsOnly_ranked]
  case refine_12 => simp [aggregate, faultsOnly_summarise]
  all_goals
    simp [flatBuiltin, average, minimum, maximum, count, countAll, countBlank, median, countIf,
      averageIf]

theorem faultsAsListed_logic : ∀ f ∈ logicBuiltins, f.FaultsAsListed := by
  simp [logicBuiltins, FaultsAsListed, flatBuiltin, scalarBuiltin, choose,
    faultsOnly_insteadOfError, conjunction, disjunction, negation, chooseByNumber, isOfKind]

theorem faultsAsListed_lookup : ∀ f ∈ lookupBuiltins, f.FaultsAsListed := by
  simp [lookupBuiltins, FaultsAsListed, tableLookup, matchPlace, faultsOnly_parallelLookup, index,
    rowNumber, rowsOf, columnNumber, columnsOf]

theorem faultsAsListed_text : ∀ f ∈ textBuiltins, f.FaultsAsListed := by
  simp [textBuiltins, FaultsAsListed, flatBuiltin, scalarBuiltin, leftEnd, rightEnd, middle, length,
    find, search, substitute, replace, trimSpaces, convertText, repeatText, textWithPicture,
    joinTexts, concatAll, concatScalars]

theorem faultsAsListed_date : ∀ f ∈ dateBuiltins, f.FaultsAsListed := by
  simp [dateBuiltins, FaultsAsListed, scalarBuiltin, volatileBuiltin, today, now, dateOfParts,
    civilPart, clockPart, weekday, weekNumber, faultsOnly_valueOfText]

/-- **Every function of the table** has only the faults that it is a source of. -/
theorem faultsAsListed_of_mem {f : Builtin} (h : f ∈ builtins) : f.FaultsAsListed := by
  simp only [builtins, List.mem_append] at h
  rcases h with ((((h | h) | h) | h) | h) | h
  · exact faultsAsListed_arithmetic f h
  · exact faultsAsListed_summary f h
  · exact faultsAsListed_logic f h
  · exact faultsAsListed_lookup f h
  · exact faultsAsListed_text f h
  · exact faultsAsListed_date f h

end Builtin

end Gridcalc
