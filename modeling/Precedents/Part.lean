/-!
# Parts

The data of a part of a package as it arrives at its reader: in pieces, one for each request. A
request asks for a fixed number of bytes, and is answered in full as long as they are at hand. What
arrives may break off before the end of the part.
-/

namespace Precedents

/-- The data of a part in the pieces in which it arrives, and whether all of it could be had. -/
structure Part where
  pieces : List (List UInt8)
  whole : Bool
  deriving DecidableEq

namespace Part

/-- How many bytes are asked for at once. -/
def requestSize : Nat := 8192

/-- The sizes of the pieces in which `n` bytes arrive that are at hand. -/
def pieceSizes (n : Nat) : List Nat :=
  List.replicate (n / requestSize) requestSize ++
    if n % requestSize = 0 then [] else [n % requestSize]

/-- Cuts pieces of the given sizes off some bytes. -/
def cut : List Nat → List UInt8 → List (List UInt8)
  | [], _ => []
  | size :: sizes, bytes => bytes.take size :: cut sizes (bytes.drop size)

/-- A part of which these bytes are at hand. -/
def ofBytesAnd (bytes : List UInt8) (whole : Bool) : Part :=
  ⟨cut (pieceSizes bytes.length) bytes, whole⟩

/-- A part that is known to consist of these bytes. -/
def ofBytes (bytes : List UInt8) : Part := ofBytesAnd bytes true

/-- What arrives of the part. -/
def bytes (p : Part) : List UInt8 := p.pieces.flatten

/-- How many bytes are left at the start of each piece. -/
def startsOf : List (List UInt8) → List Nat
  | [] => []
  | piece :: pieces =>
    let later := startsOf pieces
    (piece.length + later.headD 0) :: later

/-- How many bytes are left at the start of each piece of the part. -/
def starts (p : Part) : List Nat := startsOf p.pieces

end Part

end Precedents
