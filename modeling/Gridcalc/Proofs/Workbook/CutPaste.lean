import Gridcalc.Proofs.Workbook.Places
import Gridcalc.Proofs.Workbook.Pasting

/-!
# Pasting what was cut

A clip that was cut keeps the cells of a range as they were, and where the range was: the index of
its sheet and its rectangle. Pasting puts the cells into another place and clears whatever stands
where the range was.

* `Edit.inputIn_target`, `Edit.inputIn_outside`: what every cell holds after the paste;
* `Workbook.ChangesOnly`, `Edit.changesOnly_iff`: outside of the target only some cells change;
* `Operation.CutTo`: a cell that was cut stands here now, through all operations since;
* `Edit.paste_cut`: which cells a paste changes, and when these are only cells that were cut.

The clip does not follow the range. If lines or sheets in front of it are inserted or removed after
the cut, the old rectangle holds other cells, and it is these that are cleared.
-/

namespace Gridcalc

open Workbook

/-! ## 1. Cells that a paste changes -/

/-- Outside of a rectangle only some cells change: every other one keeps its literal, its formula
    and its style. -/
def Workbook.ChangesOnly (cut : CellKey → Prop) (dest : Nat) (target : RangeRef)
    (wb wb' : Workbook) : Prop :=
  ∀ key : CellKey, ¬key.LiesIn dest target → ¬cut key →
    inputIn wb'.sheets key = inputIn wb.sheets key

namespace Edit

variable {start wb wb' : Workbook} {clip : Clip} {sheet dest : Nat} {range target : RangeRef}
  {corner : CellRef} {key : CellKey}

section Contents

variable (hcut : start.clip .cut sheet range = .ok clip) (hw : wb.WellFormed)
  (hok : pasteClip clip dest corner wb = .ok target wb')

include hcut hw hok

/-- **The target holds what the range held when it was cut.** -/
theorem inputIn_target (hstart : start.WellFormed) (hkey : key.LiesIn dest target) :
    inputIn wb'.sheets key = inputIn start.sheets (key.origin corner sheet range) := by
  rw [inputIn_pasted hcut hw hok hstart hkey]
  simp only [Clip.placed_of_cut (clip_eq_ok hcut).1]
  rfl

/-- **Outside of the target** the paste clears what stands where the range was, and changes nothing
    else. -/
theorem inputIn_outside (hkey : ¬key.LiesIn dest target) :
    inputIn wb'.sheets key =
      if key.LiesIn sheet range then none else inputIn wb.sheets key := by
  rw [inputIn_beside hcut hw hok hkey]
  simp only [true_and]

/-- Only some cells change exactly if all that stands where the range was is among them. -/
theorem changesOnly_iff {cut : CellKey → Prop} :
    ChangesOnly cut dest target wb wb' ↔
      ∀ key : CellKey, key.LiesIn sheet range → ¬key.LiesIn dest target →
        inputIn wb.sheets key ≠ none → cut key := by
  constructor
  · intro h key hthere hkey hinput
    refine Classical.not_not.mp fun hnot => hinput ?_
    rw [← h key hkey hnot, inputIn_outside hcut hw hok hkey, if_pos hthere]
  · intro h key hkey hnot
    rw [inputIn_outside hcut hw hok hkey]
    split
    · rename_i hthere
      refine Classical.not_not.mp fun hinput => hnot (h key hthere hkey ?_)
      exact fun he => hinput he.symm
    · rfl

end Contents

end Edit

/-! ## 2. Cells that were cut -/

/-- A cell that was cut stands here now, through all operations since. -/
def Operation.CutTo (ops : List Operation) (wb : Workbook) (sheet : Nat) (range : RangeRef)
    (key : CellKey) : Prop :=
  ∃ origin : CellKey, origin.LiesIn sheet range ∧ cellAfter? ops wb origin = some key

namespace Edit

variable {start wb' : Workbook} {clip : Clip} {rest : Clipboard} {sheet dest : Nat}
  {range target : RangeRef} {corner : CellRef} {ops : List Operation}

/-- A clip that was cut is pasted once. -/
theorem paste_eq_ok_of_cut {wb : Workbook} (hcut : clip.mode = .cut)
    (hok : paste (some clip) dest corner wb = .ok (some target, rest) wb') :
    pasteClip clip dest corner wb = .ok target wb' ∧ rest = none := by
  obtain ⟨covered, hsome, hpaste, rfl⟩ := paste_eq_ok hok
  cases hsome
  exact ⟨hpaste, by simp [Clipboard.afterPaste, hcut]⟩

/-- **What a paste changes of what was cut before.** A range is cut, any operations follow, and the
    clip is pasted. Then the target holds what the range held when it was cut; outside of it, the
    cells that stand where the range was are cleared, and nothing else changes. So only what was
    cut changes exactly if all that stands there now was cut, which is the case if sheets, rows and
    columns were inserted and removed behind the range only. -/
theorem paste_cut (hstart : start.WellFormed) (hcut : start.clip .cut sheet range = .ok clip)
    (hpaste : paste (some clip) dest corner (Operation.applyAll ops start) =
      .ok (some target, rest) wb') :
    rest = none ∧ SameFrames wb'.sheets (Operation.applyAll ops start).sheets ∧
    (∀ key : CellKey, key.LiesIn dest target →
      inputIn wb'.sheets key = inputIn start.sheets (key.origin corner sheet range)) ∧
    (∀ key : CellKey, ¬key.LiesIn dest target → inputIn wb'.sheets key =
      if key.LiesIn sheet range then none
      else inputIn (Operation.applyAll ops start).sheets key) ∧
    (ChangesOnly (Operation.CutTo ops start sheet range) dest target
        (Operation.applyAll ops start) wb' ↔
      ∀ key : CellKey, key.LiesIn sheet range → ¬key.LiesIn dest target →
        inputIn (Operation.applyAll ops start).sheets key ≠ none →
        Operation.CutTo ops start sheet range key) ∧
    ((∀ op ∈ ops, op.Spares sheet range) →
      ChangesOnly (Operation.CutTo ops start sheet range) dest target
        (Operation.applyAll ops start) wb') := by
  obtain ⟨hmode, -⟩ := clip_eq_ok hcut
  obtain ⟨hok, hrest⟩ := paste_eq_ok_of_cut hmode hpaste
  have hw : (Operation.applyAll ops start).WellFormed := Operation.wellFormed_applyAll ops hstart
  have hframes := (writes_pasteClip hw ⟨_, _, _, _, hcut⟩ dest corner).sameFrames hw hok
  have hiff : ChangesOnly (Operation.CutTo ops start sheet range) dest target _ wb' ↔ _ :=
    changesOnly_iff hcut hw hok
  refine ⟨hrest, hframes, fun key => inputIn_target hcut hw hok hstart,
    fun key => inputIn_outside hcut hw hok, hiff, fun hspares => hiff.mpr fun key hthere _ _ => ?_⟩
  exact ⟨key, hthere, Operation.cellAfter?_of_spares (hthere.1.symm ▸ hspares) hthere.2⟩

/-- A sheet of two cells, one below the other. -/
def keptAndCut : Workbook :=
  (create ⟨20, 10⟩ ⟨default, fun _ => 0⟩).putAll
    [(⟨0, 0, 0⟩, .ofValue (.text "keep")), (⟨0, 1, 0⟩, .ofValue (.text "cut"))]

theorem wellFormed_keptAndCut : keptAndCut.WellFormed ∧ keptAndCut.Consistent := by
  have hnew := sound_create ⟨20, 10⟩ ⟨default, fun _ => 0⟩
  have hsteps := @steps_putAll (create ⟨20, 10⟩ ⟨default, fun _ => 0⟩)
    [(⟨0, 0, 0⟩, .ofValue (.text "keep")), (⟨0, 1, 0⟩, .ofValue (.text "cut"))] [] fun x hx => by
      simp only [List.mem_cons, List.not_mem_nil, or_false] at hx
      rcases hx with rfl | rfl <;> exact ⟨_, rfl, by decide⟩
  exact ⟨hsteps.wellFormed hnew.wellFormed, hsteps.consistent hnew.consistent⟩

/-- A row comes above both cells. -/
theorem editLines_keptAndCut :
    ∃ wb, editLines 0 (.insertRows 0 1) keptAndCut = .ok () wb ∧
      ∃ ws, wb.sheets[0]? = some ws ∧ ws.rowCount = 21 ∧ ws.colCount = 10 := by
  have hw := wellFormed_keptAndCut.1
  obtain ⟨ws, ws', hws, hedit, hrows, hcols⟩ : ∃ ws ws', keptAndCut.sheets[0]? = some ws ∧
      ws.applyEdit (.insertRows 0 1) = .ok ws' ∧ ws'.rowCount = 21 ∧ ws'.colCount = 10 :=
    ⟨_, _, rfl, rfl, rfl, rfl⟩
  have hlen := (List.getElem?_eq_some_iff.mp hws).1
  obtain ⟨ws'', hws'', hframe⟩ := (sameFrames_editLines hw hws hedit).symm.getElem?
    (List.getElem?_set_self hlen)
  exact ⟨_, editLines_ok hws hedit, ws'', hws'',
    (congrArg Worksheet.rowCount hframe).symm.trans hrows,
    (congrArg Worksheet.colCount hframe).symm.trans hcols⟩

/-- The lower of two cells is cut, a row is inserted above both, and the clip is pasted elsewhere:
    the upper one, which now stands where the lower one stood, is cleared. -/
theorem paste_cut_insertRow :
    let ops := [Operation.editLines 0 (.insertRows 0 1)]
    let range := RangeRef.between 1 0 1 0
    ∃ clip target rest wb', keptAndCut.clip .cut 0 range = .ok clip ∧
      paste (some clip) 0 (.ofIndices 0 2) (Operation.applyAll ops keptAndCut) =
        .ok (some target, rest) wb' ∧
      inputIn (Operation.applyAll ops keptAndCut).sheets ⟨0, 1, 0⟩ =
        some (.ofValue (.text "keep")) ∧
      inputIn wb'.sheets ⟨0, 1, 0⟩ = none ∧
      ¬ChangesOnly (Operation.CutTo ops keptAndCut 0 range) 0 target
        (Operation.applyAll ops keptAndCut) wb' := by
  intro ops range
  obtain ⟨hw, hconsistent⟩ := wellFormed_keptAndCut
  obtain ⟨wb, hok, ws, hws, hrows, hcols⟩ := editLines_keptAndCut
  have hwb : Operation.applyAll ops keptAndCut = wb := after_ok hok
  -- the upper cell goes down, into the place where the lower one was cut
  have hdown : (Operation.editLines 0 (.insertRows 0 1)).cell? keptAndCut ⟨0, 0, 0⟩ =
      some ⟨0, 1, 0⟩ := by
    simp only [Operation.cell?, Operation.run, hok]
    rfl
  have hkeep : inputIn (Operation.applyAll ops keptAndCut).sheets ⟨0, 1, 0⟩ =
      some (.ofValue (.text "keep")) := by
    obtain ⟨relabel, hmoved⟩ := (Operation.editLines 0 (.insertRows 0 1)).inputIn_cell? hw
      hconsistent.tight rfl hdown
    exact hmoved.trans rfl
  have hnot : ¬Operation.CutTo ops keptAndCut 0 range ⟨0, 1, 0⟩ := by
    rintro ⟨origin, hlies, hafter⟩
    have hupper : Operation.cellAfter? ops keptAndCut ⟨0, 0, 0⟩ = some ⟨0, 1, 0⟩ := by
      rw [Operation.cellAfter?, hdown]
      rfl
    rw [Operation.cellAfter?_injective hafter hupper] at hlies
    exact absurd hlies (by decide)
  obtain ⟨clip, hcut, htarget⟩ : ∃ clip, keptAndCut.clip .cut 0 range = .ok clip ∧
      clip.target (.ofIndices 0 2) = .between 0 2 0 2 := ⟨_, rfl, rfl⟩
  have hfits : clip.Fits 0 (.ofIndices 0 2) (Operation.applyAll ops keptAndCut) := by
    rw [hwb]
    refine ⟨⟨ws, hws, ?_⟩, fun _ => ?_⟩
    · rw [htarget, Worksheet.containsRange, Worksheet.inBounds_iff, hrows, hcols]
      decide
    · rw [(clip_eq_ok hcut).2.1, hws]
      exact Option.some_ne_none _
  obtain ⟨cleared, -, -, hdone⟩ := exists_pasteClip (Operation.wellFormed_applyAll ops hw)
    ⟨_, _, _, _, hcut⟩ hfits
  rw [htarget] at hdone
  have hpaste : paste (some clip) 0 (.ofIndices 0 2) (Operation.applyAll ops keptAndCut) =
      .ok (some (.between 0 2 0 2), Clipboard.afterPaste (some clip))
        (afterPasting (Operation.applyAll ops keptAndCut) clip 0 (.ofIndices 0 2) cleared) :=
    bind_ok (bind_ok hdone)
  obtain ⟨-, -, -, houtside, hiff, -⟩ := paste_cut hw hcut hpaste
  have hcleared := houtside ⟨0, 1, 0⟩ (by decide)
  rw [if_pos (by decide)] at hcleared
  refine ⟨clip, _, _, _, hcut, hpaste, hkeep, hcleared, fun honly => ?_⟩
  refine hnot (hiff.mp honly ⟨0, 1, 0⟩ (by decide) (by decide) ?_)
  rw [hkeep]
  exact Option.some_ne_none _

end Edit

end Gridcalc
