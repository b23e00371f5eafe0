import Precedents.Archive.Inflate
import Precedents.Part

/-!
# Delivery

How unpacked data arrives at its reader. Data is unpacked into a window, which is handed out before
anything more is unpacked. The unpacking pauses when the window is full, and when a block of the
compressed data has been used up. A full window does not answer a request that has room for more; a
block that has been used up does, if anything has been unpacked for the request. When the data turns
out to be corrupt, what was not handed out before is lost.
-/

namespace Precedents.Archive

/-- A place in the unpacked data where the unpacking pauses, and whether a request that is open
there is answered although it has room for more. -/
structure Pause where
  place : Nat
  answers : Bool
  deriving DecidableEq

/-- The size of the window. -/
def windowSize : Nat := 32768

/-- The pauses for a full window in the unpacking of `n` bytes. -/
def windowPauses (n : Nat) : List Pause :=
  (List.range' 1 ((n - 1) / windowSize)).map fun k => ⟨k * windowSize, false⟩

/-- The pauses of an unpacking in order. The end is one, unless the data is corrupt. -/
def Inflated.allPauses (i : Inflated) : List Pause :=
  let blocks := i.pauses.map fun place => ⟨place, true⟩
  let inside := (windowPauses i.out.size ++ blocks).mergeSort fun a b => a.place ≤ b.place
  if i.ending = .corrupt then inside else inside ++ [⟨i.out.size, true⟩]

/-- The sizes of the pieces in which the data arrives, after `given` bytes of which the last `taken`
are for a request that is still open. -/
def deliveredSizes (taken given : Nat) : List Pause → List Nat
  | [] => []
  | pause :: pauses =>
    let n := taken + (pause.place - given)
    if !pause.answers && n < Part.requestSize then deliveredSizes n pause.place pauses
    else Part.pieceSizes n ++ deliveredSizes 0 pause.place pauses

/-- The part that compressed data holds. It is whole if it came to its end and has the right
checksum. -/
def Inflated.part (i : Inflated) (isRight : ByteArray → Bool) : Part :=
  ⟨Part.cut (deliveredSizes 0 0 i.allPauses) i.out.toList, i.ending = .finished && isRight i.out⟩

end Precedents.Archive
