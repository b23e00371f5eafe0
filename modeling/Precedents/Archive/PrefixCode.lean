import Precedents.Archive.Unpacking

/-!
# Prefix codes

Codes of symbols of which none begins another. Shorter codes come first, and codes of one length are
in the order of their symbols, so that the lengths tell the code.
-/

namespace Precedents.Archive

/-- A prefix code: how many codes there are of each length from 1 up, and the symbols in the order
of their codes. -/
structure PrefixCode where
  counts : List Nat
  symbols : Array Nat

namespace PrefixCode

/-- The greatest length of a code. -/
def maxLength : Nat := 15

/-- The code in which each symbol has a given length, zero for symbols that do not occur. -/
def ofLengths (lengths : List Nat) : PrefixCode :=
  let used := (List.range' 1 maxLength).map fun n =>
    (lengths.zipIdx.filter (·.1 == n)).map (·.2)
  ⟨used.map List.length, used.flatten.toArray⟩

/-- How many codes of the greatest length are left over, negative if there are too many codes. -/
def spare (c : PrefixCode) : Int :=
  c.counts.foldl (fun (room : Int) (n : Nat) => 2 * room - n) 1

/-- Whether codes can be told apart and none is missing. -/
def isComplete (c : PrefixCode) : Bool := c.spare == 0

/-- Whether a code can be used: it is complete, it has no symbols, or it has a single symbol with a
code of one bit. -/
def isUsable (c : PrefixCode) : Bool :=
  c.isComplete || c.symbols.isEmpty || (c.symbols.size == 1 && c.counts.head? == some 1)

/-- Finds a symbol among the codes that are left to try. `code` is what has been read, `first` the
first code of its length, and `index` the place of that code's symbol. -/
def find (c : PrefixCode) (code first index : Nat) : List Nat → Unpack Nat
  | [] => throw .corrupt
  | count :: counts => do
    let code := code + (← Unpack.bits 1)
    let next := index + count
    if code < first + count then return c.symbols.getD (index + (code - first)) 0
    else if next = c.symbols.size then throw .corrupt
    else c.find (2 * code) (2 * (first + count)) next counts

/-- Reads a symbol. Bits that begin no code are told from the first that shows it. -/
def read (c : PrefixCode) : Unpack Nat := c.find 0 0 0 c.counts

end PrefixCode

end Precedents.Archive
