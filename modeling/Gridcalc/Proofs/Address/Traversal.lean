import Gridcalc.Address.Basic

/-!
# The cells of a rectangle

A walk over a rectangle keeps the position of the next cell and, apart from it, how many cells are
still to come. Both stay in step: where the walk stands follows from the number of cells that have
gone by, and so the walk is the list of the rows, each from the left, and ends behind the last one.

* `RangeRef.cellAt`, `RangeRef.walkAt`: the cell of a number, and the place that so many cells have
  gone by;
* `RangeRef.next?_walkAt`: what one step of the walk does; `RangeRef.take_walk`: what any number of
  steps does;
* `RangeRef.cells_eq_flatMap`: the cells are those of each column in each row;
* `RangeRef.walk_exact`: **the walk goes through the cells of the rectangle, row by row**, and its
  position stays in the rectangle.
-/

namespace Gridcalc

namespace RangeRef

variable {r : RangeRef}

/-! ## 1. Extent -/

theorem contains_iff {row col : Nat} : r.contains row col = true ↔
    r.firstRow ≤ row ∧ row ≤ r.lastRow ∧ r.firstCol ≤ col ∧ col ≤ r.lastCol := by
  simp only [contains, Bool.and_eq_true, decide_eq_true_eq, and_assoc]

/-- The first row and column of a rectangle are not behind the last ones. -/
theorem first_le_last (r : RangeRef) : r.firstRow ≤ r.lastRow ∧ r.firstCol ≤ r.lastCol := by
  simp only [firstRow, lastRow, firstCol, lastCol]
  omega

theorem contains_between {top left bottom right row col : Nat} (hrows : top ≤ bottom)
    (hcols : left ≤ right) : (between top left bottom right).contains row col = true ↔
      top ≤ row ∧ row ≤ bottom ∧ left ≤ col ∧ col ≤ right := by
  rw [contains_iff]
  simp only [between, firstRow, lastRow, firstCol, lastCol, CellRef.ofIndices,
    Nat.min_eq_left hrows, Nat.max_eq_right hrows, Nat.min_eq_left hcols, Nat.max_eq_right hcols]

theorem rowCount_le (h : r.lastRow < maxRows) : r.rowCount ≤ maxRows := by
  unfold rowCount
  omega

theorem colCount_le (h : r.lastCol < maxColumns) : r.colCount ≤ maxColumns := by
  unfold colCount
  omega

theorem cellCount_le (hrow : r.lastRow < maxRows) (hcol : r.lastCol < maxColumns) :
    r.cellCount ≤ maxRows * maxColumns := Nat.mul_le_mul (rowCount_le hrow) (colCount_le hcol)

theorem colCount_pos (r : RangeRef) : 0 < r.colCount := Nat.succ_pos _

theorem cellCount_pos (r : RangeRef) : 0 < r.cellCount :=
  Nat.mul_pos (Nat.succ_pos _) r.colCount_pos

/-! ## 2. One step -/

/-- The cell of a rectangle with a number, counted row by row. -/
def cellAt (r : RangeRef) (k : Nat) : CellRef :=
  CellRef.ofIndices (r.firstRow + k / r.colCount) (r.firstCol + k % r.colCount)

/-- The place in the walk over a rectangle that `k` cells have gone by. -/
def walkAt (r : RangeRef) (k : Nat) : Cursor :=
  { r.walk with
    row := min (r.firstRow + k / r.colCount) r.lastRow
    col := r.firstCol + k % r.colCount
    remaining := r.cellCount - k }

theorem walkAt_zero (r : RangeRef) : r.walkAt 0 = r.walk := by
  have hrow : min r.firstRow r.lastRow = r.firstRow := Nat.min_eq_left r.first_le_last.1
  simp only [walkAt, walk, Nat.zero_div, Nat.zero_mod, Nat.add_zero, Nat.sub_zero, hrow]

/-- The walk stays in the rectangle, behind its last cell too. -/
theorem contains_walkAt (r : RangeRef) (k : Nat) :
    r.contains (r.walkAt k).row (r.walkAt k).col = true := by
  obtain ⟨hrows, hcols⟩ := r.first_le_last
  have hcol : k % r.colCount < r.lastCol - r.firstCol + 1 := Nat.mod_lt k r.colCount_pos
  refine contains_iff.mpr ⟨Nat.le_min.mpr ⟨Nat.le_add_right _ _, hrows⟩, Nat.min_le_right _ _,
    Nat.le_add_right _ _, ?_⟩
  show r.firstCol + k % r.colCount ≤ r.lastCol
  omega

/-- Up to the last cell the row is that of the next cell. -/
theorem row_walkAt {k : Nat} (hk : k < r.cellCount) :
    (r.walkAt k).row = r.firstRow + k / r.colCount := by
  have hrows := r.first_le_last.1
  have hquot : k / r.colCount < r.lastRow - r.firstRow + 1 :=
    (Nat.div_lt_iff_lt_mul r.colCount_pos).mpr hk
  exact Nat.min_eq_left (by omega)

/-- Counting in rows of `n`: the next number is in the next row if this one is the last of its row,
    and beside it in the same row otherwise. -/
theorem succ_div_mod {n : Nat} (hn : 0 < n) (k : Nat) :
    k % n + 1 = n ∧ (k + 1) / n = k / n + 1 ∧ (k + 1) % n = 0 ∨
      k % n + 1 < n ∧ (k + 1) / n = k / n ∧ (k + 1) % n = k % n + 1 := by
  have hsucc : k + 1 = n * (k / n) + (k % n + 1) := by
    rw [← Nat.add_assoc, Nat.div_add_mod]
  have hdiv : (k + 1) / n = k / n + (k % n + 1) / n :=
    (congrArg (· / n) hsucc).trans (Nat.mul_add_div hn _ _)
  have hmod : (k + 1) % n = (k % n + 1) % n :=
    (congrArg (· % n) hsucc).trans (Nat.mul_add_mod _ _ _)
  rcases Nat.lt_or_eq_of_le (Nat.succ_le_of_lt (Nat.mod_lt k hn)) with hlt | hlast
  · exact .inr ⟨hlt, by rw [hdiv, Nat.div_eq_of_lt hlt, Nat.add_zero],
      by rw [hmod, Nat.mod_eq_of_lt hlt]⟩
  · rw [Nat.succ_eq_add_one] at hlast
    exact .inl ⟨hlast, by rw [hdiv, hlast, Nat.div_self hn], by rw [hmod, hlast, Nat.mod_self]⟩

/-- The position and the count move on together: from the last column to the start of the next row,
    from the last cell to the start of the last row. -/
theorem advance_walkAt {k : Nat} (hk : k < r.cellCount) :
    (r.walkAt k).advance = r.walkAt (k + 1) := by
  obtain ⟨hrows, hcols⟩ := r.first_le_last
  have hcount : r.colCount = r.lastCol - r.firstCol + 1 := rfl
  have hrow : min (r.firstRow + k / r.colCount) r.lastRow = r.firstRow + k / r.colCount :=
    row_walkAt hk
  rcases succ_div_mod r.colCount_pos k with ⟨hlast, hdiv, hmod⟩ | ⟨hlast, hdiv, hmod⟩
  · have hcol : r.firstCol + k % r.colCount = r.lastCol := by omega
    simp only [Cursor.advance, walkAt, walk, hrow, hdiv, hmod, if_pos hcol, Nat.sub_sub,
      Nat.add_zero, Cursor.mk.injEq, true_and, and_true]
    split <;> omega
  · have hcol : r.firstCol + k % r.colCount ≠ r.lastCol := by omega
    simp only [Cursor.advance, walkAt, walk, hrow, hdiv, hmod, if_neg hcol, Nat.sub_sub,
      Nat.add_assoc]

/-- **One step of the walk** gives the cell of the next number. -/
theorem next?_walkAt {k : Nat} (hk : k < r.cellCount) :
    (r.walkAt k).next? = some (r.cellAt k, r.walkAt (k + 1)) := by
  have hleft : (r.walkAt k).remaining ≠ 0 := Nat.sub_ne_zero_of_lt hk
  rw [Cursor.next?, if_neg hleft, advance_walkAt hk, row_walkAt hk]
  rfl

/-- Behind the last cell the walk gives nothing. -/
theorem next?_walkAt_end {k : Nat} (hk : r.cellCount ≤ k) : (r.walkAt k).next? = none :=
  if_pos (Nat.sub_eq_zero_of_le hk)

/-! ## 3. Any number of steps -/

/-- Every step takes the cell of the next number, until all have gone by. -/
theorem collect_walkAt (r : RangeRef) (passed : List CellRef) (k n : Nat) :
    (r.walkAt k).collect passed n =
      (passed.reverse ++ (List.range' k (min n (r.cellCount - k))).map r.cellAt,
        r.walkAt (k + min n (r.cellCount - k))) := by
  induction n generalizing k passed with
  | zero => simp [Cursor.collect]
  | succ n ih =>
    by_cases hk : k < r.cellCount
    · have hmin : min (n + 1) (r.cellCount - k) = min n (r.cellCount - (k + 1)) + 1 := by omega
      rw [Cursor.collect, next?_walkAt hk]
      show (r.walkAt (k + 1)).collect (r.cellAt k :: passed) n = _
      rw [ih, hmin, List.range'_succ, List.map_cons, List.reverse_cons, List.append_assoc,
        Nat.add_assoc, Nat.add_comm 1]
      rfl
    · have hmin : min (n + 1) (r.cellCount - k) = 0 := by omega
      rw [Cursor.collect, next?_walkAt_end (Nat.le_of_not_lt hk), hmin]
      simp

/-- **Any number of steps** gives the cells of the first numbers. -/
theorem take_walk (r : RangeRef) (n : Nat) :
    r.walk.take n =
      ((List.range (min n r.cellCount)).map r.cellAt, r.walkAt (min n r.cellCount)) := by
  rw [← walkAt_zero, Cursor.take, collect_walkAt, Nat.sub_zero, Nat.zero_add, List.range_eq_range']
  rfl

theorem cells_eq (r : RangeRef) : r.cells = (List.range r.cellCount).map r.cellAt := by
  have hall : r.walk.remaining = r.cellCount := rfl
  rw [cells, take_walk, hall, Nat.min_self]

theorem length_cells (r : RangeRef) : r.cells.length = r.cellCount := by
  rw [cells_eq, List.length_map, List.length_range]

/-- More steps than there are cells give no further ones. -/
theorem take_walk_fst (r : RangeRef) (n : Nat) : (r.walk.take n).1 = r.cells.take n := by
  rw [take_walk, cells_eq, ← List.map_take, List.take_range]

/-! ## 4. Rows and columns -/

/-- The cell of a row and a column of the rectangle has the number that follows from the whole rows
    above it. -/
theorem cellAt_mul_add (r : RangeRef) (row : Nat) {col : Nat} (hcol : col < r.colCount) :
    r.cellAt (row * r.colCount + col) =
      CellRef.ofIndices (r.firstRow + row) (r.firstCol + col) := by
  rw [cellAt, Nat.mul_comm, Nat.mul_add_div r.colCount_pos, Nat.div_eq_of_lt hcol, Nat.add_zero,
    Nat.mul_add_mod, Nat.mod_eq_of_lt hcol]

theorem map_cellAt_rows (r : RangeRef) (n : Nat) :
    (List.range (n * r.colCount)).map r.cellAt =
      (List.range' r.firstRow n).flatMap fun row => r.cols.map (CellRef.ofIndices row) := by
  induction n with
  | zero => simp
  | succ n ih =>
    have hrow : (List.range r.colCount).map (fun col => r.cellAt (n * r.colCount + col)) =
        r.cols.map (CellRef.ofIndices (r.firstRow + n)) := by
      rw [cols, List.range'_eq_map_range, List.map_map]
      exact List.map_congr_left fun col hcol => r.cellAt_mul_add n (List.mem_range.mp hcol)
    rw [Nat.succ_mul, List.range_add, List.map_append, List.map_map, ih, List.range'_1_concat,
      List.flatMap_append, List.flatMap_singleton]
    exact congrArg _ hrow

/-- **The cells of a rectangle are those of each column in each row.** -/
theorem cells_eq_flatMap (r : RangeRef) :
    r.cells = r.rows.flatMap fun row => r.cols.map (CellRef.ofIndices row) :=
  r.cells_eq.trans (r.map_cellAt_rows r.rowCount)

theorem mem_cells {c : CellRef} :
    c ∈ r.cells ↔ c = CellRef.ofIndices c.row c.col ∧ r.contains c.row c.col = true := by
  simp only [cells_eq_flatMap, List.mem_flatMap, List.mem_map, mem_rows, mem_cols, contains_iff]
  constructor
  · intro h
    obtain ⟨row, hrow, col, hcol, rfl⟩ := h
    exact ⟨rfl, hrow.1, hrow.2, hcol⟩
  · intro h
    obtain ⟨hc, hfirst, hlast, hcol⟩ := h
    exact ⟨c.row, ⟨hfirst, hlast⟩, c.col, hcol, hc.symm⟩

theorem contains_of_mem_cells {c : CellRef} (h : c ∈ r.cells) : r.contains c.row c.col = true :=
  (mem_cells.mp h).2

end RangeRef

/-- The cell stands in front of the other one: further up, or in the same row and further to the
    left. -/
def CellRef.Before (a b : CellRef) : Prop := a.row < b.row ∨ a.row = b.row ∧ a.col < b.col

theorem CellRef.Before.ne {a b : CellRef} (h : a.Before b) : a ≠ b := by
  intro heq
  subst heq
  rcases h with h | ⟨-, h⟩ <;> exact Nat.lt_irrefl _ h

namespace RangeRef

variable {r : RangeRef}

/-- The cells are listed from the top, and each row from the left. -/
theorem pairwise_cells (r : RangeRef) : r.cells.Pairwise CellRef.Before := by
  rw [cells_eq_flatMap, List.pairwise_flatMap]
  constructor
  · intro row _
    rw [List.pairwise_map]
    exact (List.pairwise_lt_range' 1 Nat.one_pos).imp fun hlt => .inr ⟨rfl, hlt⟩
  · refine (List.pairwise_lt_range' 1 Nat.one_pos).imp fun hlt a ha b hb => ?_
    obtain ⟨_, _, rfl⟩ := List.mem_map.mp ha
    obtain ⟨_, _, rfl⟩ := List.mem_map.mp hb
    exact .inl hlt

theorem getElem?_cells {k : Nat} (hk : k < r.cellCount) : r.cells[k]? = some (r.cellAt k) := by
  rw [cells_eq, List.getElem?_map, List.getElem?_range hk, Option.map_some]

theorem head?_cells (r : RangeRef) : r.cells.head? = some r.topLeft := by
  rw [List.head?_eq_getElem?, getElem?_cells r.cellCount_pos, cellAt, Nat.zero_div, Nat.zero_mod]
  rfl

theorem getLast?_cells (r : RangeRef) : r.cells.getLast? = some r.bottomRight := by
  obtain ⟨hrows, hcols⟩ := r.first_le_last
  have hlast : r.cells.length - 1 =
      (r.lastRow - r.firstRow) * r.colCount + (r.lastCol - r.firstCol) := by
    rw [length_cells, cellCount, rowCount, Nat.succ_mul]
    rfl
  have hlt : r.cells.length - 1 < r.cellCount := by
    have hpos := r.cellCount_pos
    rw [length_cells]
    omega
  rw [List.getLast?_eq_getElem?, getElem?_cells hlt, hlast, cellAt_mul_add _ _ (Nat.lt_succ_self _),
    Nat.add_sub_cancel' hrows, Nat.add_sub_cancel' hcols]
  rfl

/-! ## 5. Rectangles in the grid -/

/-- The numbers that a place in a walk keeps fit their words, 32 bits for a row, 16 for a column and
    64 for the count, and the row and the column can still be counted up. -/
structure Cursor.Fits (c : Cursor) : Prop where
  row : c.row + 1 < twoTo 32
  col : c.col + 1 < twoTo 16
  remaining : c.remaining < twoTo 64

theorem last_lt_of_onGrid (hstart : r.start.onGrid = true) (hstop : r.stop.onGrid = true) :
    r.lastRow < maxRows ∧ r.lastCol < maxColumns := by
  simp only [CellRef.onGrid, Bool.and_eq_true, decide_eq_true_eq] at hstart hstop
  exact ⟨Nat.max_lt.mpr ⟨hstart.1, hstop.1⟩, Nat.max_lt.mpr ⟨hstart.2, hstop.2⟩⟩

/-- In the grid no step counts beyond the words, at its last row and column either. -/
theorem fits_walkAt (hrow : r.lastRow < maxRows) (hcol : r.lastCol < maxColumns) (k : Nat) :
    (r.walkAt k).Fits := by
  obtain ⟨-, hlast, -, hright⟩ := contains_iff.mp (r.contains_walkAt k)
  have hrows : maxRows < twoTo 32 := by decide
  have hcols : maxColumns < twoTo 16 := by decide
  have hcells : maxRows * maxColumns < twoTo 64 := by decide
  exact ⟨by omega, by omega,
    Nat.lt_of_le_of_lt (Nat.le_trans (Nat.sub_le _ _) (cellCount_le hrow hcol)) hcells⟩

/-- **The walk over a rectangle goes through its cells, row by row.**
    Whichever way round its corners are given, the cells of a rectangle in the grid are the
    positions that lie in it, each of them once and no other ones, in the order of the rows and of
    the columns in each row, from the top left corner to the bottom right one. After any number of
    steps the walk has given that many of them, or all; the next step gives the next one, or nothing
    behind the last; the count is the number of those still to come; and the position of the walk
    lies in the rectangle, so that no number leaves its word. -/
theorem walk_exact (r : RangeRef) (hstart : r.start.onGrid = true) (hstop : r.stop.onGrid = true) :
    (r.cells.length = r.cellCount ∧ r.cells.Nodup ∧ r.cells.Pairwise CellRef.Before ∧
      (∀ c, c ∈ r.cells ↔
        c = CellRef.ofIndices c.row c.col ∧ r.contains c.row c.col = true) ∧
      r.cells.head? = some r.topLeft ∧ r.cells.getLast? = some r.bottomRight) ∧
    (r.rowCount < twoTo 32 ∧ r.colCount < twoTo 16) ∧
    ∀ k, ∃ c, r.walk.take k = (r.cells.take k, c) ∧ c.next?.map Prod.fst = r.cells[k]? ∧
      c.remaining = r.cellCount - k ∧ r.contains c.row c.col = true ∧ c.Fits := by
  obtain ⟨hrow, hcol⟩ := last_lt_of_onGrid hstart hstop
  refine ⟨⟨r.length_cells, r.pairwise_cells.imp CellRef.Before.ne, r.pairwise_cells,
    fun _ => mem_cells, r.head?_cells, r.getLast?_cells⟩,
    ⟨Nat.lt_of_le_of_lt (rowCount_le hrow) (by decide),
      Nat.lt_of_le_of_lt (colCount_le hcol) (by decide)⟩,
    fun k => ⟨r.walkAt (min k r.cellCount), ?_, ?_, ?_, r.contains_walkAt _,
      fits_walkAt hrow hcol _⟩⟩
  · rw [← take_walk_fst, take_walk]
  · rcases Nat.lt_or_ge k r.cellCount with hk | hk
    · rw [Nat.min_eq_left (Nat.le_of_lt hk), next?_walkAt hk, getElem?_cells hk]
      rfl
    · rw [Nat.min_eq_right hk, next?_walkAt_end (Nat.le_refl _),
        List.getElem?_eq_none (r.length_cells ▸ hk)]
      rfl
  · show r.cellCount - min k r.cellCount = r.cellCount - k
    omega

/-- The last two rows and columns of the grid, by the corners at the bottom left and the top
    right. -/
def lastCorner : RangeRef :=
  ⟨{ row := maxRows - 1, col := maxColumns - 2, rowFixed := true },
    CellRef.ofIndices (maxRows - 2) (maxColumns - 1)⟩

/-- The walk over the last four cells of the grid ends at the start of the last row. -/
theorem walk_exact_lastCorner :
    lastCorner.start.onGrid = true ∧ lastCorner.stop.onGrid = true ∧
    lastCorner.cells = [.ofIndices 1048574 16382, .ofIndices 1048574 16383,
      .ofIndices 1048575 16382, .ofIndices 1048575 16383] ∧
    lastCorner.cells.getLast? = some (CellRef.ofIndices 1048575 16383) ∧
    ∃ c, lastCorner.walk.take 4 = (lastCorner.cells, c) ∧ c.next? = none ∧ c.remaining = 0 ∧
      c.row = 1048575 ∧ c.col = 16382 ∧ c.Fits := by
  have hstart : lastCorner.start.onGrid = true := by decide
  have hstop : lastCorner.stop.onGrid = true := by decide
  obtain ⟨⟨hlength, -, -, -, -, hlast⟩, -, hsteps⟩ := walk_exact lastCorner hstart hstop
  obtain ⟨c, htake, hnext, hleft, -, hfits⟩ := hsteps 4
  have hall : lastCorner.cells.take 4 = lastCorner.cells :=
    List.take_of_length_le (Nat.le_of_eq hlength)
  have hplace : c = lastCorner.walkAt 4 :=
    (congrArg Prod.snd htake).symm.trans (congrArg Prod.snd (lastCorner.take_walk 4))
  refine ⟨hstart, hstop, by decide, hlast, c, htake.trans (by rw [hall]), ?_, hleft, ?_, ?_, hfits⟩
  · exact Option.map_eq_none_iff.mp (hnext.trans (List.getElem?_eq_none (Nat.le_of_eq hlength)))
  · rw [hplace]
    decide
  · rw [hplace]
    decide

end RangeRef

end Gridcalc
