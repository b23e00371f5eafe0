import Precedents.Address
import Precedents.Formula.Lexeme

/-!
# References as written

What a formula says about the cells it reads, before sheet names are looked up. A formula is cut
into pieces: references, and everything else. The pieces keep the characters they were read from, so
that a formula is the concatenation of its pieces, and every byte offset is a sum of their widths.
-/

namespace Precedents.Formula

/-- What stands before the exclamation mark of a reference. -/
inductive Qualifier where
  /-- One sheet of the workbook. -/
  | sheet (name : String)
  /-- The sheets from one to another. -/
  | span (first last : String)
  /-- Something in another workbook. -/
  | external
  deriving DecidableEq

/-- An address and the characters it was written with. -/
structure Mention where
  text : List Char
  address : Address
  deriving DecidableEq

/-- The second corner of an area and what stands between it and the first: a colon, and perhaps the
qualifier once more. -/
structure Corner where
  joint : List Char
  mention : Mention
  deriving DecidableEq

/-- One address, or two that are the corners of a rectangle. -/
structure Area where
  first : Mention
  second : Option Corner
  deriving DecidableEq

/-- A reference: its qualifier with the characters it was written with, and its area. -/
structure Reference where
  qualifier : Option Qualifier
  lead : List Char
  area : Area
  deriving DecidableEq

/-- A piece of a formula. -/
inductive Piece where
  | plain (text : List Char)
  | reference (r : Reference)
  deriving DecidableEq

/-- The characters of an area. -/
def Area.text (a : Area) : List Char :=
  a.first.text ++ match a.second with
    | none => []
    | some corner => corner.joint ++ corner.mention.text

/-- The characters of a reference. -/
def Reference.text (r : Reference) : List Char := r.lead ++ r.area.text

/-- The characters of a piece. -/
def Piece.text : Piece → List Char
  | plain text => text
  | reference r => r.text

/-- The reference that a piece is, if it is one. -/
def Piece.reference? : Piece → Option Reference
  | plain _ => none
  | reference r => some r

/-- The number of bytes that some characters take in UTF-8. -/
def width : List Char → Nat
  | [] => 0
  | c :: cs => c.utf8Size + width cs

/-- A stretch of bytes of a formula, from `start` up to `stop`. -/
structure Span where
  start : Nat
  stop : Nat
  deriving DecidableEq

/-- A reference and where its addresses stand in the formula. -/
structure Located where
  reference : Reference
  first : Span
  second : Option Span
  deriving DecidableEq

/-- Where the addresses of a reference stand that begins at an offset. -/
def Reference.locate (r : Reference) (offset : Nat) : Located :=
  let start := offset + width r.lead
  let stop := start + width r.area.first.text
  { reference := r
    first := ⟨start, stop⟩
    second := r.area.second.map fun corner =>
      let start := stop + width corner.joint
      ⟨start, start + width corner.mention.text⟩ }

/-- The stretch of both addresses of a reference with what stands between them. -/
def Located.area (l : Located) : Span := ⟨l.first.start, (l.second.getD l.first).stop⟩

/-- The references among pieces that begin at an offset, with their places. -/
def locate (offset : Nat) : List Piece → List Located
  | [] => []
  | .plain text :: rest => locate (offset + width text) rest
  | .reference r :: rest => r.locate offset :: locate (offset + width r.text) rest

end Precedents.Formula
