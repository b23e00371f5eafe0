import Precedents.Formula.Advance
import Precedents.Text.Blank

/-!
# Reading a formula

One pass over a formula that finds the references in it: `readFrom` repeats `step` to the end of the
text or to the first fault. A fault is always met at the start of the piece that cannot be read, so
its place is the width of the pieces before it.
-/

namespace Precedents.Formula

/-- A formula cut into pieces, up to its end or to the fault that ends the reading. -/
structure Reading where
  pieces : List Piece
  fault : Option Cause
  deriving DecidableEq

/-- The reading with a piece put in front of it. -/
def Reading.cons (p : Piece) (r : Reading) : Reading := { r with pieces := p :: r.pieces }

/-- Cuts a text into pieces in a context. -/
def readFrom (ctx : Context) (text : List Char) : Reading :=
  match h : step ctx text with
  | .stop fault => ⟨[], fault⟩
  | .skip rest next =>
    have : rest.length < text.length := by
      have := h ▸ step_advances ctx text
      exact this.2
    (readFrom next rest).cons (.plain (upTo text rest))
  | .found r rest =>
    have : rest.length < text.length := by
      have := h ▸ step_advances ctx text
      exact this.2
    (readFrom ctx.plain rest).cons (.reference r)
termination_by text.length

/-- The text of a formula after the blanks and the equals sign that it may begin with. -/
def body (text : List Char) : List Char :=
  match Text.trimLeft text with
  | '=' :: cs => cs
  | cs => cs

/-- Cuts a formula into pieces. -/
def read (formula : String) : Reading :=
  let text := formula.toList
  (readFrom .start (body text)).cons (.plain (upTo text (body text)))

/-- The references as they stand in the formula. -/
def Reading.references (r : Reading) : List Reference := r.pieces.filterMap Piece.reference?

/-- The references with their places in the formula. -/
def Reading.located (r : Reading) : List Located := locate 0 r.pieces

/-- The byte offset at which the reading ended. -/
def Reading.position (r : Reading) : Nat := width (r.pieces.flatMap Piece.text)

/-- A fault of a formula and its byte offset. -/
structure ParseError where
  position : Nat
  cause : Cause
  deriving DecidableEq

/-- The text of a fault. -/
def ParseError.message (e : ParseError) : String :=
  s!"Parse error at position {e.position}: {e.cause.message}"

/-- The fault that ended the reading, if one did. -/
def Reading.error? (r : Reading) : Option ParseError := r.fault.map (⟨r.position, ·⟩)

end Precedents.Formula
