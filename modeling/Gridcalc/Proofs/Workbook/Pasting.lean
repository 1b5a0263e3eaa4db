import Gridcalc.Proofs.Workbook.Places
import Gridcalc.Proofs.Workbook.Undoing

/-!
# Pasting

A clip keeps the cells of a range as they were when it was copied or cut. Pasting clears the target
and the range that was cut, as far as cells stand there by then, and puts the cells of the clip into
the target. The two rectangles may be on one sheet and may overlap.

* `CellKey.origin`: the place in the range for a place in the target;
* `Workbook.inputIn_putAll_of_unique`: what is put into a place is what it holds in the end;
* `Edit.pasteClip_eq_ok`: what a paste that goes through puts and clears;
* `Edit.inputIn_pasted`, `Edit.inputIn_beside`: what every cell holds after the paste;
* `Edit.paste_exact`: **a paste writes exactly its target**.
-/

namespace Gridcalc

open Workbook

/-! ## 1. Clips -/

/-- The place that lies as far from the corner of a range as a cell lies from another corner. -/
def CellKey.origin (key : CellKey) (corner : CellRef) (sheet : Nat) (range : RangeRef) : CellKey :=
  ⟨sheet, range.firstRow + (key.row - corner.row), range.firstCol + (key.col - corner.col)⟩

/-- What was cut is pasted as it was. -/
theorem Clip.placed_of_cut {clip : Clip} (h : clip.mode = .cut) {corner : CellRef} {cell : Cell} :
    clip.placed corner cell = cell := by
  rw [placed, h]

/-- A cell that has something in it is pasted as one. -/
theorem Clip.unlessBlank_placed (clip : Clip) (corner : CellRef) {cell : Cell}
    (h : cell.unlessBlank = some cell) :
    (clip.placed corner cell).input.unlessBlank = some (clip.placed corner cell).input := by
  have hblank : (clip.placed corner cell).isBlank = cell.isBlank := by
    unfold placed
    cases clip.mode with
    | cut => rfl
    | copy => exact cell.isBlank_relabelled _
  unfold Cell.unlessBlank at h
  rw [← Cell.input_unlessBlank, Cell.unlessBlank, hblank]
  split at h
  · cases h
  · rw [if_neg ‹_›, Option.map_some]

/-! ## 2. Cells put one after another -/

/-- What is put into a place is what it holds in the end, unless something else is put there. -/
theorem Workbook.inputIn_putAll_of_unique {wb : Workbook} {cells : List (CellKey × Cell)}
    {key : CellKey} {cell : Cell} (hin : ∀ x ∈ cells, wb.InGrid x.1) (hkey : (key, cell) ∈ cells)
    (hunique : ∀ other, (key, other) ∈ cells → other = cell) :
    inputIn (wb.putAll cells).sheets key = cell.input.unlessBlank := by
  induction cells generalizing wb with
  | nil => cases hkey
  | cons x cells ih =>
    have hrest : ∀ y ∈ cells, (wb.put x.1 x.2).InGrid y.1 := fun y hy =>
      (hin y (List.mem_cons_of_mem _ hy)).of_sameFrames (sameFrames_put wb _ _).symm
    rw [putAll_cons]
    by_cases hlater : ∃ other, (key, other) ∈ cells
    · obtain ⟨other, hother⟩ := hlater
      have hsame := hunique other (List.mem_cons_of_mem _ hother)
      exact ih hrest (hsame ▸ hother) fun y hy => hunique y (List.mem_cons_of_mem _ hy)
    · have hlast : ∀ y ∈ cells, y.1 ≠ key := fun y hy e => hlater ⟨y.2, e ▸ hy⟩
      rcases List.mem_cons.mp hkey with rfl | hkey
      · rw [inputIn_putAll_of_not hrest hlast, inputIn_put (hin _ List.mem_cons_self), if_pos rfl]
      · exact absurd ⟨cell, hkey⟩ hlater

/-- Clearing cells one after another: nothing is left in them, and all others stay. -/
theorem Workbook.inputIn_putAll_blank {wb : Workbook} {keys : List CellKey}
    (hin : ∀ k ∈ keys, wb.InGrid k) (key : CellKey) :
    inputIn (wb.putAll (keys.map fun k => (k, {}))).sheets key =
      if key ∈ keys then none else inputIn wb.sheets key := by
  have hgrid : ∀ x ∈ keys.map fun k => (k, ({} : Cell)), wb.InGrid x.1 := by
    simpa [List.forall_mem_map] using hin
  split
  · rename_i hkey
    refine (inputIn_putAll_of_unique hgrid (List.mem_map_of_mem hkey) fun other hother => ?_).trans
      rfl
    obtain ⟨k, -, he⟩ := List.mem_map.mp hother
    exact (Prod.mk.inj he).2.symm
  · rename_i hkey
    refine inputIn_putAll_of_not hgrid fun x hx => ?_
    obtain ⟨k, hk, rfl⟩ := List.mem_map.mp hx
    exact fun he => hkey (he ▸ hk)

namespace Edit

variable {start wb wb' : Workbook} {clip : Clip} {mode : ClipMode} {sheet dest : Nat}
  {range target : RangeRef} {corner : CellRef} {key : CellKey}

/-! ## 3. What a paste puts and clears -/

/-- A paste clears the target, and the source of what was cut, and puts the cells of the clip into
    the target. -/
theorem pasteClip_eq_ok (hw : wb.WellFormed) (hclip : clip.Taken)
    (hok : pasteClip clip dest corner wb = .ok target wb') :
    target = clip.target corner ∧ ∃ cleared : Workbook,
      (∀ key, inputIn cleared.sheets key =
        if (clip.mode = .cut ∧ key.LiesIn clip.sheet clip.source) ∨ key.LiesIn dest target then none
        else inputIn wb.sheets key) ∧
      (∀ x ∈ placements clip dest corner, cleared.InGrid x.1) ∧
      SameInputs wb'.sheets (cleared.putAll (placements clip dest corner)).sheets := by
  by_cases hfits : clip.Fits dest corner wb
  · obtain ⟨cleared, hin, hcleared, hdone⟩ := exists_pasteClip hw hclip hfits
    rw [hdone] at hok
    cases hok
    obtain ⟨hclearedGrid, hplacedGrid⟩ := List.forall_mem_append.mp hin
    refine ⟨rfl, wb.putAll (cleared.map fun key => (key, {})), fun key => ?_, fun x hx => ?_, ?_⟩
    · have hgrid : ∀ k ∈ cleared, wb.InGrid k := fun k hk =>
        hclearedGrid _ (List.mem_map_of_mem hk)
      rw [inputIn_putAll_blank hgrid]
      by_cases hcell : cellIn wb.sheets key = none
      · simp [inputIn, hcell]
      · simp only [hcleared, ne_eq, hcell, not_false_eq_true, and_true]
    · exact (hplacedGrid x hx).of_sameFrames (sameFrames_putAll wb _).symm
    · rw [← putAll_append]
      exact sameInputs_recalculate (hw.putAll hin) _
  · obtain ⟨e, he⟩ := pasteClip_error hfits
    rw [he] at hok
    cases hok

/-- What comes to a place of the target is what stood in its origin when the clip was filled. -/
theorem mem_placements_iff (hclip : start.clip mode sheet range = .ok clip)
    (hkey : key.LiesIn dest (clip.target corner)) {placed : Cell} :
    (key, placed) ∈ placements clip dest corner ↔
      (cellIn start.sheets (key.origin corner sheet range)).map (clip.placed corner) =
        some placed := by
  obtain ⟨-, rfl, rfl, hcells⟩ := clip_eq_ok hclip
  obtain ⟨hrow, hrowlt, hcol, hcollt⟩ := Clip.contains_target_iff.mp hkey.2
  have hoffset := hcells (key.row - corner.row) (key.col - corner.col)
  simp only [hrowlt, hcollt, true_and] at hoffset
  rw [CellKey.origin, Option.map_eq_some_iff, placements, List.mem_map]
  constructor
  · rintro ⟨⟨row, col, cell⟩, hcell, he⟩
    obtain ⟨rfl, hplaced⟩ := Prod.mk.inj he
    refine ⟨cell, (hoffset cell).mp ?_, hplaced⟩
    simpa using hcell
  · rintro ⟨cell, hcell, hplaced⟩
    refine ⟨_, (hoffset cell).mpr hcell, Prod.ext ?_ hplaced⟩
    obtain ⟨i, row, col⟩ := key
    obtain ⟨rfl, -⟩ := hkey
    simp only [CellKey.mk.injEq, true_and]
    exact ⟨Nat.add_sub_cancel' hrow, Nat.add_sub_cancel' hcol⟩

section Contents

variable (hclip : start.clip mode sheet range = .ok clip) (hw : wb.WellFormed)
  (hok : pasteClip clip dest corner wb = .ok target wb')

include hclip hw hok

/-- **The target holds what the range held when the clip was filled.** -/
theorem inputIn_pasted (hstart : start.WellFormed) (hkey : key.LiesIn dest target) :
    inputIn wb'.sheets key = (cellIn start.sheets (key.origin corner sheet range)).map
      fun cell => (clip.placed corner cell).input := by
  obtain ⟨rfl, cleared, hcleared, hin, hinputs⟩ := pasteClip_eq_ok hw ⟨_, _, _, _, hclip⟩ hok
  rw [hinputs.inputs]
  cases horigin : cellIn start.sheets (key.origin corner sheet range) with
  | some cell =>
    have hplaced := (mem_placements_iff hclip hkey).mpr (congrArg _ horigin)
    have hunique : ∀ other, (key, other) ∈ placements clip dest corner →
        other = clip.placed corner cell := fun other hother =>
      Option.some.inj (((mem_placements_iff hclip hkey).mp hother).symm.trans (congrArg _ horigin))
    rw [inputIn_putAll_of_unique hin hplaced hunique, Option.map_some,
      clip.unlessBlank_placed corner (hstart.unlessBlank_of_cellIn horigin)]
  | none =>
    rw [inputIn_putAll_of_not hin fun x hx he => ?_, hcleared, if_pos (.inr hkey)]
    · rfl
    · subst he
      have hplaced := (mem_placements_iff hclip hkey).mp hx
      rw [horigin] at hplaced
      cases hplaced

/-- **Outside of the target** the paste clears what stands where the range was if it was cut, and
    changes nothing else. -/
theorem inputIn_beside (hkey : ¬key.LiesIn dest target) :
    inputIn wb'.sheets key =
      if mode = .cut ∧ key.LiesIn sheet range then none else inputIn wb.sheets key := by
  obtain ⟨rfl, rfl, rfl, -⟩ := clip_eq_ok hclip
  have htaken : clip.Taken := ⟨_, _, _, _, hclip⟩
  obtain ⟨rfl, cleared, hcleared, hin, hinputs⟩ := pasteClip_eq_ok hw htaken hok
  have hplaced : ∀ x ∈ placements clip dest corner, x.1 ≠ key := by
    rintro x hx rfl
    obtain ⟨⟨row, col, cell⟩, hc, rfl⟩ := List.mem_map.mp hx
    exact hkey ⟨rfl, contains_target htaken hc⟩
  rw [hinputs.inputs, inputIn_putAll_of_not hin hplaced, hcleared]
  simp only [hkey, or_false]

end Contents

/-! ## 4. Pasting from a clipboard -/

/-- A clip is pasted from the clipboard, which keeps it if it was copied. -/
theorem paste_eq_ok {result : Option RangeRef} {rest : Clipboard}
    (hok : paste (some clip) dest corner wb = .ok (result, rest) wb') :
    ∃ target, result = some target ∧ pasteClip clip dest corner wb = .ok target wb' ∧
      rest = Clipboard.afterPaste (some clip) := by
  obtain ⟨pasted, wb₁, hfrom, hlast⟩ := bind_eq_ok hok
  obtain ⟨covered, wb₂, hpaste, hsome⟩ := bind_eq_ok hfrom
  cases hsome
  cases hlast
  exact ⟨covered, rfl, hpaste, rfl⟩

/-- What is pasted of a cell: in a copied formula the references move from the range to the
    target. -/
theorem Clip.input_placed (clip : Clip) (corner : CellRef) (cell : Cell) :
    (clip.placed corner cell).input =
      if clip.mode = .cut then cell.input
      else cell.input.relabelled (shiftReferences (corner.row - clip.source.firstRow)
        (corner.col - clip.source.firstCol)) := by
  unfold Clip.placed
  cases clip.mode with
  | cut => rfl
  | copy => exact cell.input_relabelled _

/-- **A paste writes exactly its target.** A range is copied or cut, whatever happens then, and the
    clip is pasted. Then every place in the target holds what stood as far from the corner of the
    range when the clip was filled, and nothing if nothing stood there; references in copied
    formulas have moved from the range to the target, and what was cut is as it was. Outside of the
    target nothing is left where a range was that was cut, and every other cell of every sheet keeps
    its literal, its formula and its style. Names, sizes and hidden rows stay. -/
theorem paste_exact (hstart : start.WellFormed) (hclip : start.clip mode sheet range = .ok clip)
    (hw : wb.WellFormed) {result : Option RangeRef} {rest : Clipboard}
    (hok : paste (some clip) dest corner wb = .ok (result, rest) wb') :
    ∃ target, result = some target ∧
      target = .between corner.row corner.col (corner.row + range.rowCount - 1)
        (corner.col + range.colCount - 1) ∧
      SameFrames wb'.sheets wb.sheets ∧
      (∀ row col, row < range.rowCount → col < range.colCount →
        inputIn wb'.sheets ⟨dest, corner.row + row, corner.col + col⟩ =
          (cellIn start.sheets ⟨sheet, range.firstRow + row, range.firstCol + col⟩).map fun cell =>
            if mode = .cut then cell.input
            else cell.input.relabelled (shiftReferences (corner.row - range.firstRow)
              (corner.col - range.firstCol))) ∧
      ∀ key : CellKey, ¬key.LiesIn dest target → inputIn wb'.sheets key =
        if mode = .cut ∧ key.LiesIn sheet range then none else inputIn wb.sheets key := by
  obtain ⟨target, rfl, hpaste, -⟩ := paste_eq_ok hok
  obtain ⟨htarget, -⟩ := pasteClip_eq_ok hw ⟨_, _, _, _, hclip⟩ hpaste
  obtain ⟨hmode, -, hsource, -⟩ := clip_eq_ok hclip
  have hframes := (writes_pasteClip hw ⟨_, _, _, _, hclip⟩ dest corner).sameFrames hw hpaste
  refine ⟨target, rfl, by rw [htarget, Clip.target, hsource], hframes,
    fun row col hrow hcol => ?_, fun key => inputIn_beside hclip hw hpaste⟩
  have hinside : (⟨dest, corner.row + row, corner.col + col⟩ : CellKey).LiesIn dest target := by
    refine ⟨rfl, ?_⟩
    rw [htarget, Clip.contains_target_iff, hsource]
    dsimp only
    omega
  have horigin : CellKey.origin ⟨dest, corner.row + row, corner.col + col⟩ corner sheet range =
      ⟨sheet, range.firstRow + row, range.firstCol + col⟩ := by
    simp only [CellKey.origin, Nat.add_sub_cancel_left]
  rw [inputIn_pasted hclip hw hpaste hstart hinside, horigin]
  simp only [Clip.input_placed, hmode, hsource]

/-- A sheet with a text and a formula below it that refers to the text. -/
def textAndFormula : Workbook :=
  (create ⟨20, 10⟩ ⟨default, fun _ => 0⟩).putAll
    [(⟨0, 0, 0⟩, .ofValue (.text "old")), (⟨0, 1, 0⟩, .ofFormula "=A1")]

/-- The two cells are copied, the text is replaced, and the clip is pasted one row lower: the new
    text stays, the old one takes the place of the formula, and the formula has moved along. -/
theorem paste_exact_overlapping :
    ∃ clip wb', textAndFormula.clip .copy 0 (.between 0 0 1 0) = .ok clip ∧
      paste (some clip) 0 (.ofIndices 1 0)
        (textAndFormula.put ⟨0, 0, 0⟩ (.ofValue (.text "new"))) =
          .ok (some (.between 1 0 2 0), some clip) wb' ∧
      inputIn wb'.sheets ⟨0, 0, 0⟩ = some (.ofValue (.text "new")) ∧
      inputIn wb'.sheets ⟨0, 1, 0⟩ = some (.ofValue (.text "old")) ∧
      inputIn wb'.sheets ⟨0, 2, 0⟩ = some (.ofFormula "=A2") := by
  have hstart : textAndFormula.WellFormed := (wellFormed_create _ _).putAll fun x hx => by
    simp only [List.mem_cons, List.not_mem_nil, or_false] at hx
    rcases hx with rfl | rfl <;> exact ⟨_, rfl, by decide⟩
  have hw : (textAndFormula.put ⟨0, 0, 0⟩ (.ofValue (.text "new"))).WellFormed :=
    hstart.put ⟨_, rfl, by decide⟩ _
  obtain ⟨clip, hclip, hmode, htarget⟩ :
      ∃ clip, textAndFormula.clip .copy 0 (.between 0 0 1 0) = .ok clip ∧ clip.mode = .copy ∧
        clip.target (.ofIndices 1 0) = .between 1 0 2 0 := ⟨_, rfl, rfl, rfl⟩
  have hfits : clip.Fits 0 (.ofIndices 1 0)
      (textAndFormula.put ⟨0, 0, 0⟩ (.ofValue (.text "new"))) := by
    refine ⟨⟨_, rfl, ?_⟩, fun hcut => ?_⟩
    · rw [htarget]
      decide
    · rw [hmode] at hcut
      cases hcut
  obtain ⟨cleared, -, -, hdone⟩ := exists_pasteClip hw ⟨_, _, _, _, hclip⟩ hfits
  have hkept : Clipboard.afterPaste (some clip) = some clip := by
    simp [Clipboard.afterPaste, hmode]
  rw [htarget] at hdone
  have hpaste : paste (some clip) 0 (.ofIndices 1 0)
      (textAndFormula.put ⟨0, 0, 0⟩ (.ofValue (.text "new"))) =
        .ok (some (.between 1 0 2 0), Clipboard.afterPaste (some clip)) _ :=
    bind_ok (bind_ok hdone)
  rw [hkept] at hpaste
  obtain ⟨target, htarget', -, -, hinside, houtside⟩ := paste_exact hstart hclip hw hpaste
  cases htarget'
  refine ⟨clip, _, hclip, hpaste, ?_, ?_, ?_⟩
  · exact (houtside ⟨0, 0, 0⟩ (by decide)).trans (by decide +kernel)
  · exact (hinside 0 0 (by decide) (by decide)).trans (by decide +kernel)
  · exact (hinside 1 0 (by decide) (by decide)).trans (by decide +kernel)

end Edit

end Gridcalc
