import Precedents.Coord

/-!
# Blocks of cells

A block is what two opposite corners span: the same rectangle on each of one or more consecutive
sheets. `Block.contains` says which cells it has, `Block.cells` lists them in their order, and a
`Walk` visits them one at a time, so that the first cells of a large block can be had without the
others. Sheets, rows, columns and cells are counted in words of a fixed number of bits, which have
no room for the number of all rows or of all columns that a word can tell apart.
-/

namespace Precedents

/-- How many numbers there are from one up to another, counted in words of so many bits. A count
that the words have no room for starts over from zero. -/
def wordCount (bits first last : Nat) : Nat := (BitVec.ofNat bits (last - first + 1)).toNat

/-- A rectangle of cells on consecutive sheets, given by its least and its greatest corner. -/
structure Block where
  first : Coord
  last : Coord
  sheet_le : first.sheet ≤ last.sheet
  row_le : first.row ≤ last.row
  col_le : first.col ≤ last.col
  deriving DecidableEq

namespace Block

/-- The block that two opposite corners span. -/
def spanning (a b : Coord) : Block where
  first := ⟨min a.sheet b.sheet, min a.row b.row, min a.col b.col⟩
  last := ⟨max a.sheet b.sheet, max a.row b.row, max a.col b.col⟩
  sheet_le := by simp only; omega
  row_le := by simp only; omega
  col_le := by simp only; omega

/-- The block of one cell. -/
def single (c : Coord) : Block where
  first := c
  last := c
  sheet_le := Nat.le_refl _
  row_le := Nat.le_refl _
  col_le := Nat.le_refl _

/-- Whether the block lies on several sheets. -/
def isCrossSheet (b : Block) : Bool := b.first.sheet != b.last.sheet

/-- The number of sheets, in words of 64 bits. -/
def sheetCount (b : Block) : Nat := wordCount 64 b.first.sheet b.last.sheet

/-- The number of rows on each sheet, in words of 32 bits. -/
def rowCount (b : Block) : Nat := wordCount 32 b.first.row b.last.row

/-- The number of columns on each sheet, in words of 16 bits. -/
def colCount (b : Block) : Nat := wordCount 16 b.first.col b.last.col

/-- The number of cells on all sheets, as the product of the three in words of 64 bits. -/
def cellCount (b : Block) : Nat :=
  b.sheetCount * b.rowCount % Text.limit64 * b.colCount % Text.limit64

/-- Whether the cell belongs to the block. -/
def contains (b : Block) (c : Coord) : Bool :=
  (b.first.sheet ≤ c.sheet && c.sheet ≤ b.last.sheet) &&
  (b.first.row ≤ c.row && c.row ≤ b.last.row) &&
  (b.first.col ≤ c.col && c.col ≤ b.last.col)

/-- The cells of the block: sheet by sheet, row by row, left to right. -/
def cells (b : Block) : List Coord :=
  (List.range' b.first.sheet (b.last.sheet + 1 - b.first.sheet)).flatMap fun sheet =>
    (List.range' b.first.row (b.last.row + 1 - b.first.row)).flatMap fun row =>
      (List.range' b.first.col (b.last.col + 1 - b.first.col)).map fun col => ⟨sheet, row, col⟩

/-- The cell visited after `c`. -/
def successor? (b : Block) (c : Coord) : Option Coord :=
  if c.col < b.last.col then some { c with col := c.col + 1 }
  else if c.row < b.last.row then some { c with row := c.row + 1, col := b.first.col }
  else if c.sheet < b.last.sheet then some ⟨c.sheet + 1, b.first.row, b.first.col⟩
  else none

/-- The list is as long as the product of the three extents. -/
theorem length_cells (b : Block) :
    b.cells.length = (b.last.sheet + 1 - b.first.sheet) * (b.last.row + 1 - b.first.row) *
      (b.last.col + 1 - b.first.col) := by
  simp only [cells, List.length_flatMap, List.length_map, List.length_range', List.map_const',
    List.sum_replicate_nat, Nat.mul_assoc]

/-- The list has exactly the cells of the block. -/
theorem mem_cells {b : Block} {c : Coord} : c ∈ b.cells ↔ b.contains c := by
  obtain ⟨sheet, row, col⟩ := c
  have h₁ := b.sheet_le
  have h₂ := b.row_le
  have h₃ := b.col_le
  simp only [cells, contains, List.mem_flatMap, List.mem_map, List.mem_range'_1, Coord.mk.injEq,
    Bool.and_eq_true, decide_eq_true_eq]
  constructor
  · rintro ⟨s, hs, r, hr, k, hk, rfl, rfl, rfl⟩
    omega
  · intro h
    exact ⟨sheet, by omega, row, by omega, col, by omega, rfl, rfl, rfl⟩

end Block

/-- A walk through the cells of a block: the cell it visits next and how many are left, in words of
64 bits. -/
structure Walk where
  block : Block
  next : Option Coord
  remaining : Nat
  deriving DecidableEq

namespace Walk

/-- The walk that begins at the first cell of the block. -/
def start (b : Block) : Walk := ⟨b, some b.first, b.cellCount⟩

/-- One less in words of 64 bits. Below zero lies the greatest of them. -/
def countDown : Nat → Nat
  | 0 => Text.limit64 - 1
  | n + 1 => n

/-- Visits the next cell, if there is one. -/
def visit? (w : Walk) : Option (Coord × Walk) :=
  w.next.map fun c => (c, ⟨w.block, w.block.successor? c, countDown w.remaining⟩)

/-- Visits the next `n` cells, or as many as are left, and gives the walk after them. -/
def take (w : Walk) : Nat → List Coord × Walk
  | 0 => ([], w)
  | n + 1 => match w.visit? with
    | none => ([], w)
    | some (c, w') => let (cs, w'') := w'.take n; (c :: cs, w'')

/-- The least number of cells left, and the greatest where it fits a 64-bit count. -/
def sizeHint (w : Walk) : Nat × Option Nat :=
  if w.remaining < Text.limit64 then (w.remaining, some w.remaining)
  else (Text.limit64 - 1, none)

end Walk

end Precedents
