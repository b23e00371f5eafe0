import Precedents.Proofs.Extraction

/-!
# Sizes and places of what is read

The cells of a block can be counted in machine words exactly if the words have room for its rows,
its columns and its cells (`countInWords?_eq_some_iff`). The two corners of a token lie in the
workbook, in their order, so that with fewer than `2 ^ 30` sheets no step of the counting leaves its
words (`Block.LiesIn.countable`). For the same reason every node that is read is named after a sheet
(`tokens_fit`).
-/

namespace Precedents

/-! ## Counting in machine words -/

/-- How many numbers there are from the first to the last, in words of so many bits. There is no
answer where a step leaves the words. -/
def extent? (bits first last : Nat) : Option Nat :=
  if first ≤ last ∧ last - first + 1 < 2 ^ bits then some (last - first + 1) else none

/-- A product in words of so many bits, if it fits. -/
def product? (bits m n : Nat) : Option Nat := if m * n < 2 ^ bits then some (m * n) else none

namespace Block

/-- The number of cells as it is counted in machine words: sheets in 64 bits, rows in 32, columns in
16, and the product of the three in 64. -/
def countInWords? (b : Block) : Option Nat := do
  let sheets ← extent? 64 b.first.sheet b.last.sheet
  let rows ← extent? 32 b.first.row b.last.row
  let cols ← extent? 16 b.first.col b.last.col
  product? 64 (← product? 64 sheets rows) cols

/-- Words have room for the number of rows, for that of columns and for that of cells. Then they
have room for the number of sheets too. -/
structure Countable (b : Block) : Prop where
  rows : b.last.row - b.first.row + 1 < 2 ^ 32
  cols : b.last.col - b.first.col + 1 < 2 ^ 16
  cells : b.cells.length < Text.limit64

variable {b : Block} {wb : Workbook} {bits first last n : Nat}

/-- Words that have room for a count give it. -/
lemma wordCount_eq (h : last - first + 1 < 2 ^ bits) :
    wordCount bits first last = last - first + 1 := by
  rw [wordCount, BitVec.toNat_ofNat, Nat.mod_eq_of_lt h]

/-- Counting in words has an answer exactly if there is room for the count. -/
lemma extent?_eq_some_iff (h : first ≤ last) :
    extent? bits first last = some n ↔ last - first + 1 < 2 ^ bits ∧ last - first + 1 = n := by
  rw [extent?, Option.ite_none_right_eq_some, and_iff_right h, Option.some_inj]

/-- The cells of a block are as many as the product of its extents, as they are counted. -/
lemma length_cells_eq (b : Block) :
    b.cells.length = (b.last.sheet - b.first.sheet + 1) * (b.last.row - b.first.row + 1) *
      (b.last.col - b.first.col + 1) := by
  rw [length_cells, Nat.sub_add_comm b.sheet_le, Nat.sub_add_comm b.row_le,
    Nat.sub_add_comm b.col_le]

/-- Words that have room for the cells have room for the rows of all sheets. -/
lemma Countable.sheets_mul_rows (h : b.Countable) :
    (b.last.sheet - b.first.sheet + 1) * (b.last.row - b.first.row + 1) < Text.limit64 := by
  refine Nat.lt_of_le_of_lt ?_ h.cells
  rw [length_cells_eq]
  exact Nat.le_mul_of_pos_right _ (Nat.succ_pos _)

/-- Words that have room for the cells have room for the sheets. -/
lemma Countable.sheets (h : b.Countable) : b.last.sheet - b.first.sheet + 1 < 2 ^ 64 :=
  (Nat.le_mul_of_pos_right _ (Nat.succ_pos _)).trans_lt h.sheets_mul_rows

/-- Counting the cells of a block in words has an answer exactly if there is room for the counts,
and then it is their number. -/
lemma countInWords?_eq_some_iff : b.countInWords? = some n ↔ b.Countable ∧ b.cells.length = n := by
  simp only [countInWords?, product?, Option.bind_eq_bind, Option.bind_eq_some_iff,
    extent?_eq_some_iff b.sheet_le, extent?_eq_some_iff b.row_le, extent?_eq_some_iff b.col_le,
    Option.ite_none_right_eq_some, Option.some_inj]
  constructor
  · rintro ⟨sheets, ⟨-, rfl⟩, rows, ⟨hrows, rfl⟩, cols, ⟨hcols, rfl⟩, face, ⟨-, rfl⟩, hcells, rfl⟩
    rw [← length_cells_eq] at hcells ⊢
    exact ⟨⟨hrows, hcols, hcells⟩, rfl⟩
  · rintro ⟨h, rfl⟩
    refine ⟨_, ⟨h.sheets, rfl⟩, _, ⟨h.rows, rfl⟩, _, ⟨h.cols, rfl⟩, _, ⟨h.sheets_mul_rows, rfl⟩, ?_⟩
    rw [← length_cells_eq]
    exact ⟨h.cells, rfl⟩

/-- Where there is room, the words that start over give the number of cells too. -/
lemma Countable.cellCount_eq (h : b.Countable) : b.cellCount = b.cells.length := by
  rw [cellCount, sheetCount, rowCount, colCount, wordCount_eq h.sheets, wordCount_eq h.rows,
    wordCount_eq h.cols, Nat.mod_eq_of_lt h.sheets_mul_rows, ← length_cells_eq,
    Nat.mod_eq_of_lt h.cells]

/-- In a workbook of fewer than `2 ^ 30` sheets there is room for the counts of every block. -/
lemma LiesIn.countable (h : b.LiesIn wb) (hn : wb.sheetCount < 2 ^ 30) : b.Countable := by
  obtain ⟨-, hsheet, hrow, hcol⟩ := h
  simp only [Coord.address, Address.relative, rowLimit, columnLimit] at hrow hcol
  refine ⟨by omega, by omega, ?_⟩
  rw [length_cells]
  calc (b.last.sheet + 1 - b.first.sheet) * (b.last.row + 1 - b.first.row) *
        (b.last.col + 1 - b.first.col)
      ≤ (2 ^ 30 - 1) * rowLimit * columnLimit :=
        Nat.mul_le_mul (Nat.mul_le_mul (by omega) (by simp only [rowLimit]; omega))
          (by simp only [columnLimit]; omega)
    _ < Text.limit64 := by decide

/-- Counting the cells of a block in machine words gives their number. -/
lemma countInWords?_eq (h : b.LiesIn wb) (hn : wb.sheetCount < 2 ^ 30) :
    b.countInWords? = some b.cellCount :=
  countInWords?_eq_some_iff.2 ⟨h.countable hn, (h.countable hn).cellCount_eq.symm⟩

/-- The number of cells as a product of whole numbers. -/
lemma Countable.coe_cellCount (h : b.Countable) :
    (b.cellCount : Int) = (b.last.sheet - b.first.sheet + 1) * (b.last.row - b.first.row + 1) *
      (b.last.col - b.first.col + 1) := by
  rw [h.cellCount_eq, length_cells_eq]
  simp only [Nat.cast_mul, Nat.cast_add, Nat.cast_one, Nat.cast_sub b.sheet_le,
    Nat.cast_sub b.row_le, Nat.cast_sub b.col_le]

end Block

/-! ## Tokens and nodes -/

/-- What is known of a token of a formula in a workbook: its corners lie on sheets of the workbook
and inside the grid, in their order, and the number of its cells is the product of the extents,
which is what counting in machine words gives. -/
structure Formula.Token.Fits (t : Token) (wb : Workbook) : Prop where
  corners : ∀ c ∈ [t.block.first, t.block.last],
    c.sheet < wb.sheetCount ∧ c.row < 1048576 ∧ c.col < 16384
  ordered : t.block.first.sheet ≤ t.block.last.sheet ∧ t.block.first.row ≤ t.block.last.row ∧
    t.block.first.col ≤ t.block.last.col
  exact : (t.cellCount : Int) = (t.block.last.sheet - t.block.first.sheet + 1) *
    (t.block.last.row - t.block.first.row + 1) * (t.block.last.col - t.block.first.col + 1)
  counted : t.block.countInWords? = some t.cellCount
  small : t.cellCount < 2 ^ 64

/-- A token that lies in a workbook of not too many sheets fits it. -/
lemma Formula.Token.LiesIn.fits {t : Token} {wb : Workbook} (h : t.LiesIn wb)
    (hn : wb.sheetCount < 2 ^ 30) : t.Fits wb where
  corners := List.forall_mem_cons.2 ⟨h.1, List.forall_mem_singleton.2 h.2⟩
  ordered := ⟨t.block.sheet_le, t.block.row_le, t.block.col_le⟩
  exact := (Block.LiesIn.countable h hn).coe_cellCount
  counted := Block.countInWords?_eq h hn
  small := (Block.LiesIn.countable h hn).cellCount_eq.trans_lt (Block.LiesIn.countable h hn).cells

namespace Workbook

open Formula (tokenize)

variable {wb : Workbook}

/-- Whatever a formula on a sheet of the workbook reads fits the workbook, and what stands among the
targets of a graph is the name of a cell of the grid on a sheet of the workbook, never the text of a
coordinate whose sheet has no name. -/
theorem tokens_fit (h : wb.Reachable) :
    (wb.sheetCount < 2 ^ 30 → ∀ current < wb.sheetCount, ∀ formula,
      ∀ t ∈ tokenize wb.sheetIndex? current formula, t.Fits wb) ∧
    ∀ options, ∀ entry ∈ (wb.graph options).toList, ∀ target ∈ entry.2,
      (∃ (c : Coord) (name : String), wb.sheetName? c.sheet = some name ∧
        c.row < 1048576 ∧ c.col < 16384 ∧ target = SheetName.qualify name c) ∧
      ∀ d : Coord, target ≠ d.render := by
  constructor
  · intro hn current hc formula t ht
    exact (h.sound.tokens_lieIn hc ht).fits hn
  · intro options entry he target ht
    obtain ⟨c, hc, rfl⟩ := h.sound.node_liesIn he (List.mem_cons_of_mem _ ht)
    obtain ⟨name, hname⟩ := exists_sheetName hc.1
    have hnode : wb.qualifiedName c = SheetName.qualify name c := by rw [qualifiedName, hname]
    rw [hnode]
    exact ⟨⟨c, name, hname, hc.2.1, hc.2.2, rfl⟩, qualify_ne_render name c⟩

/-- A whole sheet, given from its last cell to its first, and the node of a cell that a formula of
the sheet reads. -/
theorem tokens_fit_sheet :
    let wb := Workbook.new.after (.set 0 "B1" (.formula "=$A$1"))
    wb.Reachable ∧ Formula.Token.Fits (.range (.spanning ⟨0, 1048575, 16383⟩ ⟨0, 0, 0⟩)) wb ∧
      ("'Sheet1'!B1", ["'Sheet1'!A1"]) ∈ (wb.graph .default).toList ∧
      ∀ d : Coord, "'Sheet1'!A1" ≠ d.render := by
  intro wb
  have h : wb.Reachable := .edit _ .new
  have hcount : wb.sheetCount = 1 := by decide +kernel
  have htokens : tokenize wb.sheetIndex? 0 "=XFD1048576:a1" =
      [.range (.spanning ⟨0, 1048575, 16383⟩ ⟨0, 0, 0⟩)] := by decide +kernel
  have hentry : ("'Sheet1'!B1", ["'Sheet1'!A1"]) ∈ (wb.graph .default).toList := by
    rw [(h.sound.graph .default).2]
    decide +kernel
  obtain ⟨hfits, hnodes⟩ := tokens_fit h
  refine ⟨h, ?_, hentry, (hnodes .default _ hentry _ List.mem_cons_self).2⟩
  apply hfits (hcount ▸ by decide) 0 (hcount ▸ by decide) "=XFD1048576:a1"
  rw [htokens]
  exact List.mem_singleton_self _

end Workbook

end Precedents
