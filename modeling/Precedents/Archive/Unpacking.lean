/-!
# Unpacking

Compressed data while it is being unpacked. The data is a sequence of bits, each byte from its
lowest bit up. What has been written before a fault is kept. The data comes in blocks, and for each
block that has been used up it is noted how much had been written then.
-/

namespace Precedents.Archive

/-- How the unpacking of compressed data ended. -/
inductive Ending where
  /-- After the last of the data. -/
  | finished
  /-- The data ran out. -/
  | truncated
  /-- The data stands for nothing. -/
  | corrupt
  deriving DecidableEq

/-- Compressed data under way: the place of the next bit, what has been written, and how much had
been written when blocks of the data were used up, the latest first. -/
structure Unpacking where
  data : ByteArray
  place : Nat
  out : ByteArray
  pauses : List Nat

namespace Unpacking

/-- The number of bits in a block of the data. -/
def blockBits : Nat := 8 * 8192

/-- Before the first bit. -/
def start (data : ByteArray) : Unpacking := ⟨data, 0, .empty, []⟩

/-- The number of bits that are left. -/
def left (u : Unpacking) : Nat := 8 * u.data.size - u.place

/-- The bit at a place, zero past the end. -/
def bitAt (u : Unpacking) (place : Nat) : Nat :=
  if h : place / 8 < u.data.size then (u.data[place / 8].toNat >>> (place % 8)) % 2 else 0

/-- The value of the next `n` bits, the first of them the least significant. -/
def peek (u : Unpacking) (n : Nat) : Nat :=
  n.fold (fun i _ v => v + (u.bitAt (u.place + i) <<< i)) 0

/-- How many blocks the reader has gone beyond before a place. -/
def blocksBefore (place : Nat) : Nat := (place - 1) / blockBits

/-- The data after `n` bits. -/
def skip (u : Unpacking) (n : Nat) : Unpacking :=
  let place := u.place + n
  if blocksBefore u.place < blocksBefore place then
    { u with place, pauses := u.out.size :: u.pauses }
  else { u with place }

/-- The data from the next whole byte on. -/
def align (u : Unpacking) : Unpacking := u.skip ((8 - u.place % 8) % 8)

/-- The data with a byte written. -/
def push (u : Unpacking) (b : UInt8) : Unpacking := { u with out := u.out.push b }

/-- Writes `n` bytes more, each a repeat of the byte `distance` before it. What lies before the
first byte counts as zero. -/
def repeatBytes (distance : Nat) (u : Unpacking) : Nat → Unpacking
  | 0 => u
  | n + 1 =>
    let place := u.out.size - distance
    let b := if h : distance ≤ u.out.size ∧ place < u.out.size then u.out.get place h.2 else 0
    repeatBytes distance (u.push b) n

end Unpacking

/-- A reader of compressed data. What it has written stays where it fails. -/
abbrev Unpack := ExceptT Ending (StateM Unpacking)

namespace Unpack

/-- Reads the next `n` bits as a number. -/
def bits (n : Nat) : Unpack Nat := do
  if (← get).left < n then throw .truncated
  let value := (← get).peek n
  modify (·.skip n)
  return value

/-- Passes over the bits up to the next whole byte. -/
def align : Unpack Unit := modify (·.align)

/-- Writes a byte. -/
def write (b : UInt8) : Unpack Unit := modify (·.push b)

/-- Writes the next `n` bytes as they are. -/
def copy : Nat → Unpack Unit
  | 0 => pure ()
  | n + 1 => do
    write (← bits 8).toUInt8
    copy n

end Unpack

end Precedents.Archive
