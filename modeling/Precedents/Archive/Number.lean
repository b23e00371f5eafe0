/-!
# Numbers in a file

Unsigned numbers that stand in a file at a place, their least significant byte first.
-/

namespace Precedents.Archive

/-- The number in `n` bytes from a place on, if there are so many. -/
def number? (data : ByteArray) (place : Nat) : Nat → Option Nat
  | 0 => some 0
  | n + 1 =>
    if h : place < data.size then
      (number? data (place + 1) n).map fun high => data[place].toNat + 256 * high
    else none

/-- The number in two bytes. -/
def short? (data : ByteArray) (place : Nat) : Option Nat := number? data place 2

/-- The number in four bytes. -/
def long? (data : ByteArray) (place : Nat) : Option Nat := number? data place 4

/-- The number in eight bytes. -/
def huge? (data : ByteArray) (place : Nat) : Option Nat := number? data place 8

/-- The greatest number in two bytes. -/
def maxShort : Nat := 0xFFFF

/-- The greatest number in four bytes. -/
def maxLong : Nat := 0xFFFFFFFF

/-- One more than the greatest number in eight bytes. -/
def limitHuge : Nat := 1 <<< 64

/-- The bytes from a place on, if there are so many. -/
def bytes? (data : ByteArray) (place length : Nat) : Option (List UInt8) :=
  if place + length ≤ data.size then some (data.extract place (place + length)).toList else none

/-- The places from `start` on, among `n`, where the number in four bytes is `mark`. -/
def marks (data : ByteArray) (mark start n : Nat) : List Nat :=
  (List.range' start n).filter fun place => long? data place == some mark

end Precedents.Archive
