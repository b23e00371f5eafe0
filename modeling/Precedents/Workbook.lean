import Std.Data.HashMap.Basic
import Precedents.SheetName
import Precedents.Worksheet

/-!
# Workbooks

An ordered list of sheets with distinct names, one of which is active. The place of a sheet is its
identity: sheets are only ever appended, so a coordinate keeps its meaning. Names are looked up in
an index that is keyed by their folded form.
-/

namespace Precedents

/-- The sheets of a workbook, the index of their names and the active sheet. -/
structure Workbook where
  sheets : Array Worksheet
  byName : Std.HashMap String Nat
  active : Nat

namespace Workbook

/-- A workbook with no sheets. -/
def empty : Workbook := ⟨#[], ∅, 0⟩

/-- The number of sheets. -/
def sheetCount (wb : Workbook) : Nat := wb.sheets.size

/-- The sheet at a place. -/
def sheet? (wb : Workbook) (index : Nat) : Option Worksheet := wb.sheets[index]?

/-- The name of the sheet at a place. -/
def sheetName? (wb : Workbook) (index : Nat) : Option String := (wb.sheet? index).map (·.name)

/-- The place of the sheet with this name, in any case. -/
def sheetIndex? (wb : Workbook) (name : String) : Option Nat := wb.byName[SheetName.fold name]?

/-- Appends a sheet and enters its name in the index. -/
def push (wb : Workbook) (ws : Worksheet) : Workbook :=
  { wb with
    sheets := wb.sheets.push ws
    byName := wb.byName.insert (SheetName.fold ws.name) wb.sheetCount }

/-- The workbook that a user starts with: one sheet and nothing on it. -/
def new : Workbook := empty.push (.empty "Sheet1")

instance : Inhabited Workbook := ⟨new⟩

/-- Appends an empty sheet with a given name and gives its place. -/
def addNamed (wb : Workbook) (name : String) : Except Error (Nat × Workbook) :=
  match SheetName.flaw? name with
  | some flaw => throw (.illegalSheetName name flaw)
  | none =>
    if (wb.sheetIndex? name).isSome then throw (.takenSheetName name)
    else pure (wb.sheetCount, wb.push (.empty name))

/-- A name that is given to a sheet when the user gives none. -/
def numberedName (n : Nat) : String := s!"Sheet{n}"

/-- The least number, greater than the number of sheets, whose name is free. One of any
`sheetCount + 1` names is, so the search ends in that span. -/
def freeNumber (wb : Workbook) : Nat :=
  let candidates := List.range' (wb.sheetCount + 1) (wb.sheetCount + 1)
  (candidates.find? fun n => (wb.sheetIndex? (numberedName n)).isNone).getD
    (2 * wb.sheetCount + 2)

/-- Appends an empty sheet under the first free numbered name. -/
def add (wb : Workbook) : Except Error (Nat × Workbook) := wb.addNamed (numberedName wb.freeNumber)

/-- Makes the sheet at a place the active one. -/
def setActive (wb : Workbook) (index : Nat) : Except Error Workbook :=
  if index < wb.sheetCount then pure { wb with active := index }
  else throw (.sheetBeyondWorkbook index wb.sheetCount)

/-- The workbook with the sheet at a place replaced by one of the same name. -/
def setSheet (wb : Workbook) (index : Nat) (ws : Worksheet) : Workbook :=
  { wb with sheets := wb.sheets.setIfInBounds index ws }

/-- Changes the sheet at a place by an operation that may be refused. -/
def onSheet (wb : Workbook) (index : Nat) (change : Worksheet → Except Error Worksheet) :
    Except Error Workbook :=
  match wb.sheet? index with
  | none => throw (.sheetBeyondWorkbook index wb.sheetCount)
  | some ws => do
    return wb.setSheet index (← change ws)

/-- Stores a cell at a position of a sheet. -/
def setAt (wb : Workbook) (index : Nat) (p : Position) (cell : Cell) : Except Error Workbook :=
  wb.onSheet index (·.setAt p cell)

/-- Stores a cell under an address of a sheet. -/
def set (wb : Workbook) (index : Nat) (address : String) (cell : Cell) : Except Error Workbook :=
  wb.onSheet index (·.set address cell)

/-- The content of a cell, blank where nothing is stored. -/
def content (wb : Workbook) (c : Coord) : Cell :=
  match wb.sheet? c.sheet with
  | none => .blank
  | some ws => ws.content c.position

/-- The formulas of one sheet with their coordinates, row by row. -/
def sheetFormulas (wb : Workbook) (index : Nat) : List (Coord × String) :=
  match wb.sheet? index with
  | none => []
  | some ws => ws.formulas.map fun (p, source) => (⟨index, p.row, p.col⟩, source)

/-- The formulas of all sheets with their coordinates, sheet by sheet. -/
def formulas (wb : Workbook) : List (Coord × String) :=
  (List.range wb.sheetCount).flatMap wb.sheetFormulas

/-- The name of a cell: its sheet's quoted name and its address, or the place of the sheet where the
workbook has no such sheet. -/
def qualifiedName (wb : Workbook) (c : Coord) : String :=
  match wb.sheetName? c.sheet with
  | some name => SheetName.qualify name c
  | none => c.render

end Workbook

end Precedents
