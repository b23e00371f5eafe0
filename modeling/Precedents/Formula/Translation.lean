import Precedents.Formula.Reading

/-!
# Translation

A formula as it reads when it is copied to another cell: every address moves by the distance, its
fixed parts apart. Nothing else of the text changes. An area that would leave the grid becomes the
error value for a lost reference.
-/

namespace Precedents.Formula

/-- What stands for an area that has left the grid. -/
def lostReference : List Char := ['#', 'R', 'E', 'F', '!']

/-- The text of an area that has moved. -/
def Area.translated (a : Area) (rows cols : Int) : List Char :=
  match a.first.address.shift rows cols, a.second with
  | none, _ => lostReference
  | some first, none => first.chars
  | some first, some corner => match corner.mention.address.shift rows cols with
    | none => lostReference
    | some second => first.chars ++ corner.joint ++ second.chars

/-- The text of a piece that has moved. -/
def Piece.translated (p : Piece) (rows cols : Int) : List Char :=
  match p with
  | plain text => text
  | reference r => r.lead ++ r.area.translated rows cols

/-- The formula as it reads `rows` further down and `cols` further right. -/
def translate (formula : String) (rows cols : Int) : Except ParseError String :=
  let reading := read formula
  match reading.error? with
  | some e => throw e
  | none => pure (String.ofList (reading.pieces.flatMap (·.translated rows cols)))

end Precedents.Formula
