import Gridcalc.Proofs.Formula.Following

/-!
# Copied formulas

A formula that is copied to another place has every loose coordinate of its references shifted.

* `CellRef.CopiedTo`, `CellRef.shift?_eq_some_iff`: where an address of the grid gets to;
* `CellRef.shift?_shift?`: **two shifts make one**, as long as the first one stays on the grid;
* `Reference.moved`: a reference with both corners moved, or a reference error;
* `parseFormula_shiftReferences`: **the copy is read as the tree with its references moved**;
* `parseFormula_rewritten`: the same of all rewritings that follow cells, and what two
  copies in a row come to.
-/

namespace Gridcalc

/-! ## 1. Shifted addresses -/

section Addresses

variable {rows cols rows' cols' delta : Int} {axis : Axis} {a b : CellRef}

/-- Address `b` is `a` with each loose coordinate shifted, and lies on the grid. -/
structure CellRef.CopiedTo (rows cols : Int) (a b : CellRef) : Prop where
  row : (b.row : Int) = a.row + if a.rowFixed then 0 else rows
  col : (b.col : Int) = a.col + if a.colFixed then 0 else cols
  rowFixed : b.rowFixed = a.rowFixed
  colFixed : b.colFixed = a.colFixed
  onGrid : b.onGrid = true

/-- An address of the grid, shifted along one axis. -/
theorem Axis.shift?_eq_some_iff (ha : a.onGrid = true) : axis.shift? delta a = some b ↔
    (axis.line b : Int) = axis.line a + (if axis.isFixed a then 0 else delta) ∧
      b = axis.put a (axis.line b) ∧ axis.line b < axis.limit := by
  have hline := axis.line_lt_of_onGrid ha
  have hself : axis.put a (axis.line a) = a := by cases axis <;> rfl
  have hput : ∀ n, axis.line (axis.put a n) = n := fun n => by cases axis <;> rfl
  unfold shift?
  cases axis.isFixed a with
  | true =>
    simp only [if_true, Int.add_zero, Option.some.injEq, Int.natCast_inj]
    constructor
    · rintro rfl
      exact ⟨rfl, hself.symm, hline⟩
    · rintro ⟨heq, hb, -⟩
      rw [hb, heq, hself]
  | false =>
    simp only [Bool.false_eq_true, if_false]
    constructor
    · intro h
      split at h
      · cases h
        rw [hput]
        exact ⟨by omega, rfl, by omega⟩
      · cases h
    · rintro ⟨heq, hb, hlt⟩
      have hmoved : ((axis.line a : Int) + delta).toNat = axis.line b := by omega
      rw [if_pos (by omega), hmoved, ← hb]

/-- A shift by nothing goes nowhere. -/
theorem Axis.shift?_zero (ha : a.onGrid = true) : axis.shift? 0 a = some a :=
  (shift?_eq_some_iff ha).mpr
    ⟨by simp, by cases axis <;> rfl, axis.line_lt_of_onGrid ha⟩

theorem Axis.onGrid_of_shift? (ha : a.onGrid = true) (h : axis.shift? delta a = some b) :
    b.onGrid = true := by
  obtain ⟨-, hb, hlt⟩ := (shift?_eq_some_iff ha).mp h
  rw [hb]
  exact onGrid_put ha hlt

/-- Rows are shifted before columns, also if there is nothing to shift. -/
theorem CellRef.shift?_eq_bind (ha : a.onGrid = true) :
    a.shift? rows cols = (Axis.row.shift? rows a).bind (Axis.column.shift? cols) := by
  have hcols : ∀ {b : CellRef}, b.onGrid = true →
      (if cols = 0 then some b else Axis.column.shift? cols b) = Axis.column.shift? cols b := by
    intro b hb
    split
    · rename_i hzero
      rw [hzero, Axis.shift?_zero hb]
    · rfl
  unfold shift?
  dsimp only
  by_cases hzero : rows = 0
  · rw [if_pos hzero, hzero, Axis.shift?_zero ha]
    exact hcols ha
  · rw [if_neg hzero]
    cases h : Axis.row.shift? rows a with
    | none => rfl
    | some b => exact hcols (Axis.onGrid_of_shift? ha h)

/-- **Where an address gets to**: what is fixed stays, what is loose moves, and nothing leaves the
    grid. -/
theorem CellRef.shift?_eq_some_iff (ha : a.onGrid = true) :
    a.shift? rows cols = some b ↔ a.CopiedTo rows cols b := by
  rw [shift?_eq_bind ha, Option.bind_eq_some_iff]
  constructor
  · rintro ⟨c, hrow, hcol⟩
    have hc := Axis.onGrid_of_shift? ha hrow
    have hb := Axis.onGrid_of_shift? hc hcol
    obtain ⟨hline, hput, -⟩ := (Axis.shift?_eq_some_iff ha).mp hrow
    obtain ⟨hline', hput', -⟩ := (Axis.shift?_eq_some_iff hc).mp hcol
    rw [hput] at hline hline' hput'
    rw [hput']
    exact ⟨hline, hline', rfl, rfl, hput' ▸ hb⟩
  · rintro ⟨hrow, hcol, hrowFixed, hcolFixed, hb⟩
    obtain ⟨hrowLt, hcolLt⟩ := onGrid_iff.mp hb
    have hc : (Axis.row.put a b.row).onGrid = true := Axis.onGrid_put ha hrowLt
    refine ⟨Axis.row.put a b.row, (Axis.shift?_eq_some_iff ha).mpr ⟨hrow, rfl, hrowLt⟩,
      (Axis.shift?_eq_some_iff hc).mpr ⟨hcol, ?_, hcolLt⟩⟩
    cases b
    cases hrowFixed
    cases hcolFixed
    rfl

theorem CellRef.onGrid_of_shift? (ha : a.onGrid = true) (h : a.shift? rows cols = some b) :
    b.onGrid = true :=
  ((shift?_eq_some_iff ha).mp h).onGrid

/-- **Two shifts make one**, as long as the first one stays on the grid. -/
theorem CellRef.shift?_shift? (ha : a.onGrid = true) (h : a.shift? rows cols = some b) :
    b.shift? rows' cols' = a.shift? (rows + rows') (cols + cols') := by
  obtain ⟨hrow, hcol, hrowFixed, hcolFixed, hb⟩ := (shift?_eq_some_iff ha).mp h
  refine Option.ext fun c => ?_
  rw [shift?_eq_some_iff hb, shift?_eq_some_iff ha]
  have hrows : (c.row : Int) = b.row + (if b.rowFixed then 0 else rows') ↔
      (c.row : Int) = a.row + if a.rowFixed then 0 else rows + rows' := by
    rw [hrow, hrowFixed]
    split <;> omega
  have hcols : (c.col : Int) = b.col + (if b.colFixed then 0 else cols') ↔
      (c.col : Int) = a.col + if a.colFixed then 0 else cols + cols' := by
    rw [hcol, hcolFixed]
    split <;> omega
  constructor
  · rintro ⟨h₁, h₂, h₃, h₄, h₅⟩
    exact ⟨hrows.mp h₁, hcols.mp h₂, h₃.trans hrowFixed, h₄.trans hcolFixed, h₅⟩
  · rintro ⟨h₁, h₂, h₃, h₄, h₅⟩
    exact ⟨hrows.mpr h₁, hcols.mpr h₂, h₃.trans hrowFixed.symm, h₄.trans hcolFixed.symm, h₅⟩

end Addresses

/-! ## 2. Moved references -/

section Moving

/-- A reference with its addresses moved: a reference error where one has no new place. -/
def Reference.moved (move : CellRef → Option CellRef) : Reference → Expr
  | .cell sheet a =>
    match move a with
    | some a => .cell sheet a
    | none => .error .ref
  | .range sheet r =>
    match move r.start, move r.stop with
    | some a, some b => .range sheet ⟨a, b⟩
    | _, _ => .error .ref

/-- The tokens of a reference with its addresses moved. -/
def movedKinds (move : CellRef → Option CellRef) (t : Target) : Option Target → List TokenKind
  | none =>
    match move t.2 with
    | some a => [.cell t.1 a]
    | none => [.error .ref]
  | some t' =>
    match move t.2, move t'.2 with
    | some a, some b => [.cell t.1 a, .colon, .cell t'.1 b]
    | _, _ => [.error .ref]

variable {move move' move'' : CellRef → Option CellRef}

theorem grows_movedKinds (move : CellRef → Option CellRef) :
    Grows (movedKinds move) (Reference.moved move) := by
  refine ⟨fun n s a => ?_, fun n s a s' b hagree => ?_, fun t t' => ?_⟩
  · simp only [movedKinds, Reference.moved]
    split
    · exact .cell _ _
    · exact .error _
  · simp only [movedKinds, Reference.moved]
    split
    · exact .range (.cell s _) hagree
    · exact .tighter (.error _)
  · cases t' <;> unfold movedKinds <;> dsimp only <;> split <;> rfl

theorem sealed_movedKinds (move : CellRef → Option CellRef) : Sealed (movedKinds move) := by
  intro t t'
  cases t' <;> unfold movedKinds <;> dsimp only <;> split <;> exact ⟨_, _, rfl, by simp, by simp⟩

/-- A reference is replaced by the tokens of its moved addresses. -/
theorem replaces_moveWith (h : ∀ {a b}, a.onGrid = true → move a = some b → b.onGrid = true) :
    Replaces (fun site => some (site.moveWith move)) (movedKinds move) := by
  intro site hsite
  obtain ⟨⟨mark, s, a⟩, second⟩ := site
  have hfirst := hsite.first
  cases second with
  | none =>
    cases ha : move a with
    | none =>
      simp only [Site.moveWith, movedKinds, Site.targets, ha, Option.map_none]
      exact .refError
    | some a' =>
      simp only [Site.moveWith, movedKinds, Site.targets, ha, Option.map_none, Option.map_some]
      exact hfirst.phrase (h hfirst.onGrid ha)
  | some second =>
    obtain ⟨mark', s', b⟩ := second
    have hsecond := hsite.second _ rfl
    cases ha : move a with
    | none =>
      simp only [Site.moveWith, movedKinds, Site.targets, ha, Option.map_none, Option.map_some]
      exact .refError
    | some a' =>
      cases hb : move b with
      | none =>
        simp only [Site.moveWith, movedKinds, Site.targets, ha, hb, Option.map_none,
          Option.map_some]
        exact .refError
      | some b' =>
        simp only [Site.moveWith, movedKinds, Site.targets, ha, hb, Option.map_some]
        exact hfirst.phrase_pair hsecond (h hfirst.onGrid ha) (h hsecond.onGrid hb)

/-- A reference moved twice. -/
theorem Reference.moved_moved (move move' : CellRef → Option CellRef) (r : Reference) :
    (r.moved move).mapReferences (Reference.moved move') =
      r.moved fun a => (move a).bind move' := by
  cases r with
  | cell sheet a =>
    simp only [moved]
    cases move a <;> rfl
  | range sheet r =>
    simp only [moved]
    cases move r.start with
    | none => rfl
    | some a =>
      cases move r.stop with
      | none => cases h : move' a <;> simp [Expr.mapReferences, h]
      | some b => rfl

theorem Reference.moved_congr {r : Reference} (h : ∀ a ∈ r.corners, move a = move' a) :
    r.moved move = r.moved move' := by
  cases r with
  | cell sheet a => simp only [moved, h a List.mem_cons_self]
  | range sheet r =>
    simp only [moved, h r.start List.mem_cons_self,
      h r.stop (List.mem_cons_of_mem _ List.mem_cons_self)]

end Moving

/-! ## 3. Copied formulas -/

section Copies

variable {rows cols : Int} {formula : String} {e : Expr}

/-- A formula is copied reference by reference, also where nothing is shifted. -/
theorem replaces_shiftReferences (rows cols : Int) :
    Replaces (fun site => some (site.moveWith (CellRef.shift? rows cols)))
      (movedKinds (CellRef.shift? rows cols)) :=
  replaces_moveWith fun ha h => CellRef.onGrid_of_shift? ha h

/-- Without a shift every reference stays. -/
theorem mapReferences_shift_zero (e : Expr) :
    e.mapReferences (Reference.moved (CellRef.shift? 0 0)) = e :=
  Expr.mapReferences_eq_self fun r _ => by cases r <;> rfl

variable (hread : parseFormula formula = ⟨some e, []⟩)
  (hplain : NoGroupCorner (kindsOf formula.toList))

include hread hplain

/-- **A copied formula is read as its tree with every reference moved**, or a reference error where
    an address leaves the grid. -/
theorem parseFormula_shiftReferences (rows cols : Int) :
    parseFormula (shiftReferences rows cols formula) =
      ⟨some (e.mapReferences (Reference.moved (CellRef.shift? rows cols))), []⟩ := by
  unfold shiftReferences
  split
  · rename_i hzero
    rw [hzero.1, hzero.2, mapReferences_shift_zero]
    exact hread
  · exact parseFormula_mapReferences (replaces_shiftReferences rows cols) (grows_movedKinds _) hread
      hplain

theorem noGroupCorner_shiftReferences (rows cols : Int) :
    NoGroupCorner (kindsOf (shiftReferences rows cols formula).toList) := by
  unfold shiftReferences
  split
  · exact hplain
  · exact noGroupCorner_mapReferences (replaces_shiftReferences rows cols) (sealed_movedKinds _)
      hread hplain

/-- **Copying a copy** is copying once, as long as the first copy stays on the grid. -/
theorem parseFormula_shiftReferences_twice (rows' cols' : Int)
    (hinside : ∀ r ∈ e.references, ∀ a ∈ r.corners, a.shift? rows cols ≠ none) :
    parseFormula (shiftReferences rows' cols' (shiftReferences rows cols formula)) =
      ⟨some (e.mapReferences (Reference.moved (CellRef.shift? (rows + rows') (cols + cols')))),
        []⟩ := by
  rw [parseFormula_shiftReferences (parseFormula_shiftReferences hread hplain rows cols)
    (noGroupCorner_shiftReferences hread hplain rows cols), Expr.mapReferences_mapReferences]
  have hboth : ∀ r ∈ e.references,
      (r.moved (CellRef.shift? rows cols)).mapReferences
          (Reference.moved (CellRef.shift? rows' cols')) =
        r.moved (CellRef.shift? (rows + rows') (cols + cols')) := by
    intro r hr
    rw [Reference.moved_moved]
    refine Reference.moved_congr fun a ha => ?_
    obtain ⟨b, hb⟩ := Option.ne_none_iff_exists'.mp (hinside r hr a ha)
    rw [hb, Option.bind_some]
    exact CellRef.shift?_shift? (onGrid_of_mem_references hread hr ha) hb
  rw [Expr.mapReferences_congr hboth]

/-- **Rewriting commutes with reading.** The text of a formula in which no colon stands directly
    behind a closing parenthesis is read without diagnostics after its references have followed an
    insertion or deletion of lines on the grid, or a copy to another place, and its tree is the old
    one with each reference moved or replaced by a reference error. Two copies in a row come to one
    if nothing leaves the grid under way, and a copy back restores the tree. -/
theorem parseFormula_rewritten :
    (∀ edit : LineEdit, edit.Fits → ∀ target onTarget,
      parseFormula (followEdit edit target onTarget formula) =
        ⟨some (e.mapReferences (edit.follow target onTarget)), []⟩) ∧
    (∀ rows cols, parseFormula (shiftReferences rows cols formula) =
      ⟨some (e.mapReferences (Reference.moved (CellRef.shift? rows cols))), []⟩) ∧
    ∀ rows cols, (∀ r ∈ e.references, ∀ a ∈ r.corners, a.shift? rows cols ≠ none) →
      (∀ rows' cols',
        parseFormula (shiftReferences rows' cols' (shiftReferences rows cols formula)) =
          parseFormula (shiftReferences (rows + rows') (cols + cols') formula)) ∧
      parseFormula (shiftReferences (-rows) (-cols) (shiftReferences rows cols formula)) =
        ⟨some e, []⟩ := by
  refine ⟨fun edit hfits target onTarget => ?_, fun rows cols => ?_,
    fun rows cols hinside => ⟨fun rows' cols' => ?_, ?_⟩⟩
  · exact parseFormula_followEdit hfits target onTarget hread hplain
  · exact parseFormula_shiftReferences hread hplain rows cols
  · rw [parseFormula_shiftReferences_twice hread hplain rows' cols' hinside,
      parseFormula_shiftReferences hread hplain]
  · rw [parseFormula_shiftReferences_twice hread hplain _ _ hinside, Int.add_right_neg,
      Int.add_right_neg, mapReferences_shift_zero]

end Copies

/-- A quoted sheet, a range with mixed fixed coordinates and a lower case address. -/
theorem parseFormula_mixed : parseFormula "=SUM('O''Brien'!B$2:$A1)+a3" =
    ⟨some (.binary .add
      (.call "SUM" [.range (some "O'Brien") ⟨⟨1, 1, true, false⟩, ⟨0, 0, false, true⟩⟩])
      (.cell none (.ofIndices 2 0))), []⟩ := by
  with_unfolding_all rfl

theorem noGroupCorner_mixed :
    NoGroupCorner (kindsOf "=SUM('O''Brien'!B$2:$A1)+a3".toList) := by
  have hkinds : kindsOf "=SUM('O''Brien'!B$2:$A1)+a3".toList = [.equals, .name "SUM", .openParen,
      .cell (some "O'Brien") ⟨1, 1, true, false⟩, .colon, .cell none ⟨0, 0, false, true⟩,
      .closeParen, .plus, .cell none ⟨2, 0, false, false⟩] := by
    with_unfolding_all rfl
  rw [hkinds]
  unfold NoGroupCorner
  decide

/-- Two rows inserted above, under another spelling of the sheet's name, and a copy three rows down
    and one column to the left. -/
theorem parseFormula_rewritten_mixed :
    parseFormula (followEdit (.insertRows 0 2) "o'brien" false "=SUM('O''Brien'!B$2:$A1)+a3") =
      ⟨some (.binary .add
        (.call "SUM" [.range (some "O'Brien") ⟨⟨1, 1, true, false⟩, ⟨2, 0, false, true⟩⟩])
        (.cell none (.ofIndices 2 0))), []⟩ ∧
    parseFormula (shiftReferences 3 (-1) "=SUM('O''Brien'!B$2:$A1)+a3") =
      ⟨some (.binary .add
        (.call "SUM" [.range (some "O'Brien") ⟨⟨1, 0, true, false⟩, ⟨3, 0, false, true⟩⟩])
        (.error .ref)), []⟩ := by
  obtain ⟨hfollow, hcopy, -⟩ := parseFormula_rewritten parseFormula_mixed noGroupCorner_mixed
  have hfits : (LineEdit.insertRows 0 2).Fits := by
    unfold LineEdit.Fits
    decide
  refine ⟨(hfollow _ hfits "o'brien" false).trans ?_, hcopy 3 (-1)⟩
  with_unfolding_all rfl

end Gridcalc
