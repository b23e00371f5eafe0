import Precedents.Address

/-!
# Coordinates

A position is a cell of one sheet, a coordinate a cell of a workbook, with the sheet given by its
place in the workbook. Positions are ordered row by row, coordinates sheet by sheet and then row by
row.
-/

namespace Precedents

/-- A cell of a sheet. -/
structure Position where
  row : Nat
  col : Nat
  deriving DecidableEq

/-- A cell of a workbook. -/
structure Coord where
  sheet : Nat
  row : Nat
  col : Nat
  deriving DecidableEq

namespace Position

/-- Rows first, columns within a row. -/
instance : Ord Position where
  compare := compareLex (compareOn row) (compareOn col)

instance : Std.TransOrd Position :=
  inferInstanceAs (Std.TransCmp (compareLex (compareOn row) (compareOn col)))

instance : Std.LawfulEqOrd Position where
  eq_of_compare {a b} h := by
    have h : (compareOn row a b).then (compareOn col a b) = .eq := h
    simp only [compareOn, Ordering.then_eq_eq, Nat.compare_eq_eq] at h
    cases a; cases b; simp_all

end Position

namespace Coord

/-- Sheets first, then rows, columns within a row. -/
instance : Ord Coord where
  compare := compareLex (compareOn sheet) (compareLex (compareOn row) (compareOn col))

instance : LT Coord := ltOfOrd

instance : Std.TransOrd Coord :=
  inferInstanceAs
    (Std.TransCmp (compareLex (compareOn sheet) (compareLex (compareOn row) (compareOn col))))

/-- The order of coordinates spelled out. -/
theorem lt_iff {a b : Coord} :
    a < b ↔ a.sheet < b.sheet ∨ a.sheet = b.sheet ∧
      (a.row < b.row ∨ a.row = b.row ∧ a.col < b.col) := by
  have h : a < b ↔ (compareOn sheet a b).then
      ((compareOn row a b).then (compareOn col a b)) = .lt := Iff.rfl
  simp only [h, compareOn, Ordering.then_eq_lt, Nat.compare_eq_lt, Nat.compare_eq_eq]

/-- The place of the coordinate on its sheet. -/
def position (c : Coord) : Position := ⟨c.row, c.col⟩

/-- The coordinate of an address on a sheet; marks are dropped. -/
def ofAddress (sheet : Nat) (a : Address) : Coord := ⟨sheet, a.row, a.col⟩

/-- The address of the coordinate on its sheet. -/
def address (c : Coord) : Address := .relative c.row c.col

/-- The text of a coordinate whose sheet has no name. -/
def render (c : Coord) : String := s!"#{c.sheet}!{c.address.render}"

end Coord

end Precedents
