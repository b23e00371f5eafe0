import Std.Data.ExtTreeMap.Basic
import Precedents.Cell
import Precedents.Coord

/-!
# Worksheets

A sheet of a workbook: its name and the cells that hold something. Cells are listed row by row,
whatever the order they were written in, and two worksheets with the same name and the same cells
are equal.
-/

namespace Precedents

/-- A named sheet and its cells by position. -/
structure Worksheet where
  name : String
  cells : Std.ExtTreeMap Position Cell

namespace Worksheet

/-- A sheet with no cells. -/
def empty (name : String) : Worksheet := ⟨name, ∅⟩

/-- The cell at a position, if one is stored there. -/
def cell? (ws : Worksheet) (p : Position) : Option Cell := ws.cells[p]?

/-- The cell that an address names, if one is stored there. -/
def find (ws : Worksheet) (address : String) : Except Error (Option Cell) := do
  let a ← Address.parse address
  return ws.cell? ⟨a.row, a.col⟩

/-- The content at a position, blank where nothing is stored. -/
def content (ws : Worksheet) (p : Position) : Cell := (ws.cell? p).getD .blank

/-- Stores a cell. Storing a blank takes away what was there. -/
def setAt (ws : Worksheet) (p : Position) (cell : Cell) : Except Error Worksheet :=
  if rowLimit ≤ p.row then throw (.rowBeyondGrid p.row)
  else if columnLimit ≤ p.col then throw (.columnBeyondGrid p.col)
  else if cell.isBlank then pure { ws with cells := ws.cells.erase p }
  else pure { ws with cells := ws.cells.insert p cell }

/-- Stores a cell under an address. -/
def set (ws : Worksheet) (address : String) (cell : Cell) : Except Error Worksheet := do
  let a ← Address.parse address
  ws.setAt ⟨a.row, a.col⟩ cell

/-- The number of stored cells. -/
def cellCount (ws : Worksheet) : Nat := ws.cells.size

/-- The stored cells, row by row. -/
def toList (ws : Worksheet) : List (Position × Cell) := ws.cells.toList

/-- The formulas, row by row. -/
def formulas (ws : Worksheet) : List (Position × String) :=
  ws.toList.filterMap fun (p, cell) => cell.formula?.map (p, ·)

end Worksheet

end Precedents
