import Precedents.Block
import Precedents.Formula.Reading
import Precedents.Workbook

/-!
# Tokens

What a formula reads: cells and blocks of the workbook it stands in. A reference becomes a token
when the names in its qualifier are looked up. References to other workbooks and to sheets that do
not exist become none.
-/

namespace Precedents.Formula

/-- A cell or a block that a formula reads. -/
inductive Token where
  | single (c : Coord)
  | range (b : Block)
  deriving DecidableEq

namespace Token

/-- The cells of a token as a block. -/
def block : Token → Block
  | single c => .single c
  | range b => b

/-- The number of cells of a token. -/
def cellCount (t : Token) : Nat := t.block.cellCount

/-- The cells of a token in their order. -/
def cells (t : Token) : List Coord := t.block.cells

end Token

/-- The sheets of a qualifier, its first and its last, where `find` looks a name up. -/
def Qualifier.ends? (find : String → Option Nat) : Qualifier → Option (Nat × Nat)
  | sheet name => (find name).map fun i => (i, i)
  | span first last => do return (← find first, ← find last)
  | external => none

/-- The token of an area between two sheets. One address is a cell, or a block if several sheets
were named. -/
def Area.token (a : Area) (spans : Bool) (ends : Nat × Nat) : Token :=
  let first := Coord.ofAddress ends.1 a.first.address
  match a.second with
  | some corner => .range (.spanning first (.ofAddress ends.2 corner.mention.address))
  | none =>
    if spans then .range (.spanning first (.ofAddress ends.2 a.first.address)) else .single first

/-- Whether a qualifier names two sheets. -/
def Qualifier.isSpan : Qualifier → Bool
  | span _ _ => true
  | _ => false

/-- The token of a reference in a formula on the sheet `current`. -/
def Reference.token? (find : String → Option Nat) (current : Nat) (r : Reference) :
    Option Token :=
  match r.qualifier with
  | none => some (r.area.token false (current, current))
  | some q => (q.ends? find).map (r.area.token q.isSpan)

/-- The tokens of a reading, in the order of their references. -/
def Reading.tokens (find : String → Option Nat) (current : Nat) (r : Reading) : List Token :=
  r.references.filterMap (·.token? find current)

/-- What a formula reads. A formula with a fault reads nothing. -/
def tokenize (find : String → Option Nat) (current : Nat) (formula : String) : List Token :=
  let reading := read formula
  match reading.fault with
  | none => reading.tokens find current
  | some _ => []

end Precedents.Formula

namespace Precedents

/-- What the cell at a place reads; only formulas read. -/
def Cell.tokens (cell : Cell) (wb : Workbook) (place : Coord) : List Formula.Token :=
  match cell.formula? with
  | some source => Formula.tokenize wb.sheetIndex? place.sheet source
  | none => []

end Precedents
