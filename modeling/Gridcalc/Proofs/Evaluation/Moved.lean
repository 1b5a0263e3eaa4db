import Gridcalc.Evaluation.Evaluate
import Gridcalc.Proofs.Formula.Rectangles
import Gridcalc.Proofs.Formula.Simple
import Gridcalc.Proofs.Sheet.Contents

/-!
# Formulas over moved cells

What formulas read and come to before and after an insertion or deletion of lines.

* `isInside`, `meantCell?`: the cell that a reference means, if it lies in its sheet;
* `LineEdit.Moves`: two lists of sheets between which the cells of one sheet have moved;
* `Moves.meantCell?_follow`: **a reference that follows means the cell that the old one meant, where
  it has gone**, and is a reference error if there is none;
* `Moves.mem_precedentsOf_follow`: **a formula that follows reads the cells that it has read**,
  where they have gone, and those that an insertion opens up inside of its ranges;
* `Moves.evaluate_follow`: a formula of operators alone comes to the same, if the cells that it
  reads have kept their values.
-/

namespace Gridcalc

/-! ## 1. The cell that a reference means -/

/-- Whether a cell lies in its sheet. -/
def isInside (sheets : List Worksheet) (key : CellKey) : Bool :=
  (sheets[key.sheet]?).any fun ws => ws.inBounds key.row key.col

theorem isInside_eq {sheets : List Worksheet} {i row col : Nat} :
    isInside sheets ⟨i, row, col⟩ = (sheets[i]?).any fun ws => ws.inBounds row col := rfl

/-- Bounds are a matter of the outlines. -/
theorem isInside_eq_of_outlines {sheets sheets' : List Worksheet}
    (h : sheets.map Worksheet.outline = sheets'.map Worksheet.outline) (key : CellKey) :
    isInside sheets key = isInside sheets' key := by
  have houtline : ∀ sheets, isInside (sheets.map Worksheet.outline) key = isInside sheets key := by
    intro sheets
    unfold isInside
    rw [List.getElem?_map, Option.any_map]
    rfl
  rw [← houtline sheets, h, houtline]

/-- The cell that a reference in a formula on sheet `home` means. -/
def meantCell? (sheets : List Worksheet) (home : Nat) (sheet : Option String) (a : CellRef) :
    Option CellKey :=
  ((sheetOfReference? sheets home sheet).map fun i => ⟨i, a.row, a.col⟩).filter (isInside sheets)

section Meaning

variable {sheets : List Worksheet} {home : Nat} {sheet : Option String} {a : CellRef}

theorem RangeRef.clippedTo_single (a : CellRef) (rowCount colCount : Nat) :
    (RangeRef.single a).clippedTo rowCount colCount =
      if a.row < rowCount && a.col < colCount then [(a.row, a.col)] else [] := by
  have hrange : ∀ n size : Nat, List.range' n (min (n + 1) size - n) =
      if n < size then [n] else [] := by
    intro n size
    split
    · rw [show min (n + 1) size - n = 1 by omega, List.range'_one]
    · rw [show min (n + 1) size - n = 0 by omega, List.range'_zero]
  simp only [RangeRef.clippedTo, RangeRef.single, firstRow, lastRow, firstCol, lastCol, min_self,
    max_self, hrange]
  by_cases hrow : a.row < rowCount <;> by_cases hcol : a.col < colCount <;> simp [hrow, hcol]

/-- What a reference reads lies in its rectangle and in its sheet. -/
theorem mem_precedents_iff {r : Reference} {q : CellKey} :
    q ∈ r.precedents sheets home ↔ sheetOfReference? sheets home r.sheet = some q.sheet ∧
      r.area.contains q.row q.col = true ∧ isInside sheets q = true := by
  rw [Reference.mem_precedents, isInside, Option.any_eq_true]
  exact and_congr_right fun _ =>
    ⟨fun ⟨ws, hws, hin, hinside⟩ => ⟨hin, ws, hws, hinside⟩,
      fun ⟨hin, ws, hws, hinside⟩ => ⟨ws, hws, hin, hinside⟩⟩

theorem precedentsOf_toExpr (sheets : List Worksheet) (home : Nat) (r : Reference) :
    precedentsOf sheets home r.toExpr = r.precedents sheets home := by
  cases r <;> exact List.flatMap_singleton _ _

/-- A reference to a cell reads the cell that it means. -/
theorem Reference.precedents_cell (sheets : List Worksheet) (home : Nat) (sheet : Option String)
    (a : CellRef) :
    (Reference.cell sheet a).precedents sheets home = (meantCell? sheets home sheet a).toList := by
  unfold precedents meantCell?
  simp only [Reference.sheet, area]
  cases sheetOfReference? sheets home sheet with
  | none => rfl
  | some i =>
    rw [Option.map_some, Option.filter_some, isInside_eq]
    dsimp only
    cases sheets[i]? with
    | none => rfl
    | some ws =>
      dsimp only
      rw [Option.any_some, RangeRef.clippedTo_single, Worksheet.inBounds]
      split <;> rfl

/-- A reference comes to the value of the cell that it means, or to a reference error. -/
theorem Context.cellValue_eq (ctx : Context) (sheet : Option String) (a : CellRef) :
    ctx.cellValue sheet a =
      ((meantCell? ctx.sheets ctx.sheet sheet a).map (valueIn ctx.sheets)).getD (.error .ref) := by
  unfold cellValue sheetOf? meantCell?
  cases sheetOfReference? ctx.sheets ctx.sheet sheet with
  | none => rfl
  | some i =>
    rw [Option.bind_some, Option.map_some, Option.filter_some, isInside_eq]
    cases hws : ctx.sheets[i]? with
    | none => rfl
    | some ws =>
      simp only [Option.any_some]
      split
      · rw [Option.map_some, Option.getD_some, valueIn_eq hws]
      · rfl

end Meaning

/-! ## 2. Moved cells -/

namespace LineEdit

/-- Lists of sheets of which the second one is the first one with the cells of sheet `target` moved;
    `name` is the name of that sheet. -/
structure Moves (edit : LineEdit) (target : Nat) (name : String) (sheets sheets' : List Worksheet) :
    Prop where
  fits : edit.Fits
  /-- References name the edited sheet exactly if they mean it. -/
  means : ∀ home sheet, means name (home = target) sheet = true ↔
    sheetOfReference? sheets home sheet = some target
  sameNames : ∀ home sheet,
    sheetOfReference? sheets' home sheet = sheetOfReference? sheets home sheet
  inside : ∀ {key moved}, edit.key? target key = some moved →
    isInside sheets' moved = isInside sheets key
  onGrid : ∀ {key}, isInside sheets' key = true → (CellRef.ofIndices key.row key.col).onGrid = true

/-- The references of a formula that mean the edited sheet are loose along the axis. -/
def LooseIn (edit : LineEdit) (target : Nat) (sheets : List Worksheet) (home : Nat) (e : Expr) :
    Prop :=
  ∀ sheet a, Reference.cell sheet a ∈ e.references →
    sheetOfReference? sheets home sheet = some target → edit.axis.isFixed a = false

namespace Moves

variable {edit : LineEdit} {target : Nat} {name : String} {sheets sheets' : List Worksheet}
  {home : Nat} {sheet : Option String} {a : CellRef} {e : Expr}

/-- Only the outlines of the sheets matter. -/
theorem of_outlines (h : edit.Moves target name sheets sheets') {sheets'' : List Worksheet}
    (houtlines : sheets''.map Worksheet.outline = sheets'.map Worksheet.outline) :
    edit.Moves target name sheets sheets'' where
  fits := h.fits
  means := h.means
  sameNames home sheet :=
    (sheetOfReference?_eq_of_outlines houtlines home sheet).trans (h.sameNames home sheet)
  inside hkey := (isInside_eq_of_outlines houtlines _).trans (h.inside hkey)
  onGrid hinside := h.onGrid ((isInside_eq_of_outlines houtlines _).symm.trans hinside)

/-- **A reference that follows means the cell that the old one meant, where it has gone.** Where
    nothing is left of the reference, the old one meant no cell, or one that is deleted. -/
theorem meantCell?_follow (h : edit.Moves target name sheets sheets') (ha : a.onGrid = true)
    (hloose : sheetOfReference? sheets home sheet = some target → edit.axis.isFixed a = false) :
    (∃ a', edit.follow name (home = target) (.cell sheet a) = .cell sheet a' ∧
      meantCell? sheets' home sheet a' =
        (meantCell? sheets home sheet a).bind (edit.key? target)) ∨
    (edit.follow name (home = target) (.cell sheet a) = .error .ref ∧
      (meantCell? sheets home sheet a).bind (edit.key? target) = none) := by
  have hmeant : ∀ {i : Nat} {a' : CellRef}, sheetOfReference? sheets home sheet = some i →
      edit.key? target ⟨i, a.row, a.col⟩ = some ⟨i, a'.row, a'.col⟩ →
      meantCell? sheets' home sheet a' =
        (meantCell? sheets home sheet a).bind (edit.key? target) := by
    intro i a' hi hkey
    simp only [meantCell?, h.sameNames, hi, Option.map_some, Option.filter_some, h.inside hkey]
    split
    · rw [Option.bind_some, hkey]
    · rfl
  cases hmeans : LineEdit.means name (home = target) sheet with
  | false =>
    refine .inl ⟨a, by simp [follow, hmeans], ?_⟩
    cases hi : sheetOfReference? sheets home sheet with
    | none => simp only [meantCell?, h.sameNames, hi, Option.map_none, Option.filter_none,
        Option.bind_none]
    | some i =>
      refine hmeant hi (key?_eq_some.mpr (.inl ⟨?_, rfl⟩))
      rintro rfl
      rw [(h.means home sheet).mpr hi] at hmeans
      cases hmeans
  | true =>
    have htarget := (h.means home sheet).mp hmeans
    have hloose := hloose htarget
    cases hmoved : edit.address? a with
    | some a' =>
      have hcell := h.fits.cell?_of_address? ha hloose hmoved
      exact .inl ⟨a', by simp [follow, hmeans, hmoved],
        hmeant htarget (key?_eq_some.mpr (.inr ⟨rfl, rfl, hcell⟩))⟩
    | none =>
      refine .inr ⟨by simp [follow, hmeans, hmoved], ?_⟩
      refine Option.eq_none_iff_forall_ne_some.mpr fun key hkey => ?_
      obtain ⟨k, hk, hkey⟩ := Option.bind_eq_some_iff.mp hkey
      obtain ⟨hk, hinside⟩ := Option.filter_eq_some_iff.mp hk
      rw [htarget, Option.map_some, Option.some.injEq] at hk
      subst hk
      rcases key?_eq_some.mp hkey with ⟨hne, -⟩ | ⟨-, -, hcell⟩
      · exact hne rfl
      · have hgrid := h.onGrid ((h.inside hkey).trans hinside)
        rw [h.fits.not_onGrid_of_address? ha hloose hmoved hcell] at hgrid
        cases hgrid

/-- A reference that follows, if it means the edited sheet, and the cells it then means. -/
theorem mem_precedentsOf_follow_of_means {r : Reference} {q : CellKey}
    (hnames : sheetOfReference? sheets' home r.sheet = some target)
    (hmeans : LineEdit.means name (home = target) r.sheet = true) :
    q ∈ precedentsOf sheets' home (edit.follow name (home = target) r) ↔
      edit.Covers q.row q.col r ∧ q.sheet = target ∧ isInside sheets' q = true := by
  have hreads : ∀ r' : Reference, r'.sheet = r.sheet →
      (q ∈ precedentsOf sheets' home r'.toExpr ↔
        r'.area.contains q.row q.col = true ∧ q.sheet = target ∧ isInside sheets' q = true) := by
    intro r' hr'
    rw [precedentsOf_toExpr, mem_precedents_iff, hr', hnames, Option.some.injEq,
      @eq_comm _ target]
    exact and_left_comm
  cases r with
  | cell sheet a =>
    have hmeans : LineEdit.means name (home = target) sheet = true := hmeans
    simp only [follow, Covers, hmeans, if_true]
    cases edit.address? a with
    | none => simp [precedentsOf, Expr.references]
    | some a' =>
      simp only [Option.some.injEq, exists_eq_left']
      exact hreads (.cell sheet a') rfl
  | range sheet r =>
    have hmeans : LineEdit.means name (home = target) sheet = true := hmeans
    simp only [follow, Covers, hmeans, if_true]
    cases edit.corners? r.start r.stop with
    | none => simp [precedentsOf, Expr.references]
    | some moved =>
      obtain ⟨a, b⟩ := moved
      simp only [Option.some.injEq, Prod.mk.injEq, and_assoc, exists_and_left, exists_eq_left']
      exact hreads (.range sheet ⟨a, b⟩) rfl

/-- A reference to another sheet reads the cells that it has read, which have not moved. -/
theorem mem_precedents_elsewhere (h : edit.Moves target name sheets sheets') {r : Reference}
    {q : CellKey} (hother : sheetOfReference? sheets home r.sheet ≠ some target) :
    q ∈ r.precedents sheets' home ↔
      ∃ p ∈ r.precedents sheets home, edit.key? target p = some q := by
  simp only [mem_precedents_iff, h.sameNames]
  constructor
  · rintro ⟨hsheet, hin, hinside⟩
    have hkey : edit.key? target q = some q :=
      key?_eq_some.mpr (.inl ⟨fun e => hother (e ▸ hsheet), rfl⟩)
    exact ⟨q, ⟨hsheet, hin, (h.inside hkey) ▸ hinside⟩, hkey⟩
  · rintro ⟨p, ⟨hsheet, hin, hinside⟩, hkey⟩
    have hstay : q = p := by
      rcases key?_eq_some.mp hkey with ⟨-, e⟩ | ⟨htarget, -⟩
      · exact e
      · exact absurd (htarget ▸ hsheet) hother
    subst hstay
    exact ⟨hsheet, hin, (h.inside hkey).trans hinside⟩

/-- What a reference to the edited sheet covers inside of that sheet is what it has read, and what
    was opened up inside of it. -/
theorem covers_and_inside_iff (h : edit.Moves target name sheets sheets') {r : Reference}
    {q : CellKey} (htarget : sheetOfReference? sheets home r.sheet = some target)
    (hgrid : ∀ a ∈ r.corners, a.onGrid = true)
    (hloose : ∀ a ∈ r.corners, edit.axis.isFixed a = false) :
    (edit.Covers q.row q.col r ∧ q.sheet = target ∧ isInside sheets' q = true) ↔
      (∃ p ∈ r.precedents sheets home, edit.key? target p = some q) ∨
      (q.sheet = target ∧ isInside sheets' q = true ∧ edit.OpensIn r.area q.row q.col) := by
  constructor
  · rintro ⟨hcovers, hsheet, hinside⟩
    rcases (h.fits.covers_iff hgrid hloose (h.onGrid hinside)).mp hcovers with
      ⟨row, col, hcell, hin⟩ | hopens
    · have hkey : edit.key? target ⟨target, row, col⟩ = some q :=
        key?_eq_some.mpr (.inr ⟨rfl, hsheet, hcell⟩)
      refine .inl ⟨_, mem_precedents_iff.mpr ⟨htarget, hin, ?_⟩, hkey⟩
      exact (h.inside hkey).symm.trans hinside
    · exact .inr ⟨hsheet, hinside, hopens⟩
  · rintro (⟨p, hp, hkey⟩ | ⟨hsheet, hinside, hopens⟩)
    · obtain ⟨hsheet, hin, hinside⟩ := mem_precedents_iff.mp hp
      have hp : p.sheet = target := Option.some.inj (hsheet.symm.trans htarget)
      have hq := (h.inside hkey).trans hinside
      rcases key?_eq_some.mp hkey with ⟨hne, -⟩ | ⟨-, hmoved, hcell⟩
      · exact absurd hp hne
      · refine ⟨?_, hmoved, hq⟩
        exact (h.fits.covers_iff hgrid hloose (h.onGrid hq)).mpr (.inl ⟨_, _, hcell, hin⟩)
    · exact ⟨(h.fits.covers_iff hgrid hloose (h.onGrid hinside)).mpr (.inr hopens), hsheet, hinside⟩

/-- **A reference that follows reads the cells that it has read**, where they have gone, and those
    that were opened up inside of it. -/
theorem mem_precedents_follow (h : edit.Moves target name sheets sheets') {r : Reference}
    {q : CellKey} (hgrid : ∀ a ∈ r.corners, a.onGrid = true)
    (hloose : sheetOfReference? sheets home r.sheet = some target →
      ∀ a ∈ r.corners, edit.axis.isFixed a = false) :
    q ∈ precedentsOf sheets' home (edit.follow name (home = target) r) ↔
      (∃ p ∈ r.precedents sheets home, edit.key? target p = some q) ∨
      (sheetOfReference? sheets home r.sheet = some target ∧ q.sheet = target ∧
        isInside sheets' q = true ∧ edit.OpensIn r.area q.row q.col) := by
  cases hmeans : LineEdit.means name (home = target) r.sheet with
  | false =>
    have hother : sheetOfReference? sheets home r.sheet ≠ some target := fun htarget => by
      rw [(h.means home r.sheet).mpr htarget] at hmeans
      cases hmeans
    have hsame : edit.follow name (home = target) r = r.toExpr := by
      cases r <;> exact if_neg (Bool.eq_false_iff.mp hmeans)
    rw [hsame, precedentsOf_toExpr, or_iff_left fun hopens => hother hopens.1]
    exact h.mem_precedents_elsewhere hother
  | true =>
    have htarget := (h.means home r.sheet).mp hmeans
    rw [mem_precedentsOf_follow_of_means ((h.sameNames home r.sheet).trans htarget) hmeans,
      h.covers_and_inside_iff htarget hgrid (hloose htarget), and_iff_right htarget]

/-- **A formula that follows reads the cells that it has read**, where they have gone, and those
    that were opened up inside of its ranges. -/
theorem mem_precedentsOf_follow (h : edit.Moves target name sheets sheets') {q : CellKey}
    (hgrid : ∀ r ∈ e.references, ∀ a ∈ r.corners, a.onGrid = true)
    (hloose : ∀ r ∈ e.references, sheetOfReference? sheets home r.sheet = some target →
      ∀ a ∈ r.corners, edit.axis.isFixed a = false) :
    q ∈ precedentsOf sheets' home (e.mapReferences (edit.follow name (home = target))) ↔
      (∃ p ∈ precedentsOf sheets home e, edit.key? target p = some q) ∨
      (q.sheet = target ∧ isInside sheets' q = true ∧ ∃ r ∈ e.references,
        sheetOfReference? sheets home r.sheet = some target ∧
          edit.OpensIn r.area q.row q.col) := by
  have hall : q ∈ precedentsOf sheets' home (e.mapReferences (edit.follow name (home = target))) ↔
      ∃ r ∈ e.references, q ∈ precedentsOf sheets' home (edit.follow name (home = target) r) := by
    simp only [precedentsOf, Expr.references_mapReferences, List.flatMap_assoc, List.mem_flatMap]
  rw [hall]
  constructor
  · rintro ⟨r, hr, hq⟩
    rcases (h.mem_precedents_follow (hgrid r hr) (hloose r hr)).mp hq with
      ⟨p, hp, hkey⟩ | ⟨htarget, hsheet, hinside, hopens⟩
    · exact .inl ⟨p, mem_precedentsOf.mpr ⟨r, hr, hp⟩, hkey⟩
    · exact .inr ⟨hsheet, hinside, r, hr, htarget, hopens⟩
  · rintro (⟨p, hp, hkey⟩ | ⟨hsheet, hinside, r, hr, htarget, hopens⟩)
    · obtain ⟨r, hr, hp⟩ := mem_precedentsOf.mp hp
      exact ⟨r, hr, (h.mem_precedents_follow (hgrid r hr) (hloose r hr)).mpr (.inl ⟨p, hp, hkey⟩)⟩
    · exact ⟨r, hr, (h.mem_precedents_follow (hgrid r hr) (hloose r hr)).mpr
        (.inr ⟨htarget, hsheet, hinside, hopens⟩)⟩

section Trees

theorem mem_precedentsOf_binary {p : CellKey} {op : Operator} {left right : Expr} :
    p ∈ precedentsOf sheets home (.binary op left right) ↔
      p ∈ precedentsOf sheets home left ∨ p ∈ precedentsOf sheets home right := by
  rw [precedentsOf, Expr.references, List.flatMap_append, List.mem_append, precedentsOf,
    precedentsOf]

theorem precedentsOf_cell (sheets : List Worksheet) (home : Nat) (sheet : Option String)
    (a : CellRef) : precedentsOf sheets home (.cell sheet a) =
      (meantCell? sheets home sheet a).toList := by
  rw [precedentsOf, Expr.references, List.flatMap_singleton, Reference.precedents_cell]

variable (h : edit.Moves target name sheets sheets') (hs : e.Simple)
  (hgrid : ∀ sheet a, Reference.cell sheet a ∈ e.references → a.onGrid = true)
  (hloose : edit.LooseIn target sheets home e)

include h hs hgrid hloose

/-- A formula of operators alone reads nothing but the cells that it has read. -/
theorem mem_precedentsOf_follow_of_simple {q : CellKey} :
    q ∈ precedentsOf sheets' home (e.mapReferences (edit.follow name (home = target))) ↔
      ∃ p ∈ precedentsOf sheets home e, edit.key? target p = some q := by
  have hcorner : ∀ r ∈ e.references, ∀ a ∈ r.corners, ∃ sheet, r = .cell sheet a := by
    intro r hr a ha
    obtain ⟨sheet, a', rfl⟩ := hs.exists_cell_of_mem hr
    cases List.mem_singleton.mp ha
    exact ⟨sheet, rfl⟩
  refine (h.mem_precedentsOf_follow (fun r hr a ha => ?_) fun r hr hmeans a ha => ?_).trans
    (or_iff_left ?_)
  · obtain ⟨sheet, rfl⟩ := hcorner r hr a ha
    exact hgrid sheet a hr
  · obtain ⟨sheet, rfl⟩ := hcorner r hr a ha
    exact hloose sheet a hr hmeans
  · rintro ⟨-, -, r, hr, -, hopens⟩
    obtain ⟨sheet, a, rfl⟩ := hs.exists_cell_of_mem hr
    exact not_opensIn_single hopens

/-- **A formula that follows comes to the same**, if the cells that it reads have kept their
    values. -/
theorem evaluate_follow {ctx ctx' : Context} (hctx : ctx.sheets = sheets ∧ ctx.sheet = home)
    (hctx' : ctx'.sheets = sheets' ∧ ctx'.sheet = home)
    (hvalues : ∀ p ∈ precedentsOf sheets home e, ∃ moved, edit.key? target p = some moved ∧
      valueIn sheets' moved = valueIn sheets p) :
    evaluate ctx' (e.mapReferences (edit.follow name (home = target))) = evaluate ctx e := by
  induction hs generalizing ctx ctx' with
  | cell sheet a =>
    have hvalue : ((meantCell? sheets home sheet a).bind (edit.key? target)).map
        (valueIn sheets') = (meantCell? sheets home sheet a).map (valueIn sheets) := by
      cases hkey : meantCell? sheets home sheet a with
      | none => rfl
      | some key =>
        obtain ⟨moved, hmoved, hvalue⟩ := hvalues key (by simp [precedentsOf_cell, hkey])
        rw [Option.bind_some, hmoved, Option.map_some, Option.map_some, hvalue]
    rw [Expr.mapReferences, evaluate, Context.cellValue_eq, hctx.1, hctx.2, ← hvalue]
    rcases h.meantCell?_follow (hgrid sheet a List.mem_cons_self)
      (hloose sheet a List.mem_cons_self) with ⟨a', hfollow, hmeant⟩ | ⟨hfollow, hmeant⟩
    · rw [hfollow, evaluate, Context.cellValue_eq, hctx'.1, hctx'.2, hmeant]
    · rw [hfollow, evaluate, hmeant]
      rfl
  | binary op _ _ ihl ihr =>
    have hleft := @ihl (fun s a hr => hgrid s a (List.mem_append_left _ hr))
      (fun s a hr => hloose s a (List.mem_append_left _ hr)) (ctx.branch 0) (ctx'.branch 0) hctx
      hctx' fun p hp => hvalues p (mem_precedentsOf_binary.mpr (.inl hp))
    have hright := @ihr (fun s a hr => hgrid s a (List.mem_append_right _ hr))
      (fun s a hr => hloose s a (List.mem_append_right _ hr)) (ctx.branch 1) (ctx'.branch 1) hctx
      hctx' fun p hp => hvalues p (mem_precedentsOf_binary.mpr (.inr hp))
    rw [Expr.mapReferences, evaluate, evaluate, hleft, hright]
  | _ => simp only [Expr.mapReferences, evaluate]

end Trees

end Moves

end LineEdit

end Gridcalc
