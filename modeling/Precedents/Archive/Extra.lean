import Precedents.Archive.Checksum
import Precedents.Archive.Entry

/-!
# Added fields

Fields that an entry of the directory has beyond those that every entry has. Each has a kind and a
length. Some kinds are known: numbers that are too large for their usual place, times, names and
comments in UTF-8, and what the data is sealed with. Others are passed over.

If the bytes end within a field, what has been read before counts, also of that field. A field that
contradicts itself or the entry makes the whole directory bad.
-/

namespace Precedents.Archive

/-- Why the reading of added fields stopped before their end. -/
inductive Halt where
  | ranOut
  | contradiction
  deriving DecidableEq

/-- Added fields while they are being read: the bytes that are left, and the entry with what has
been read so far. -/
structure ExtraState where
  rest : List UInt8
  entry : Entry

/-- A reader of added fields. What it has read stays where it stops. -/
abbrev ExtraReader := ExceptT Halt (StateM ExtraState)

namespace ExtraReader

/-- The next `n` bytes. -/
def take (n : Nat) : ExtraReader (List UInt8) := do
  let s ← get
  if s.rest.length < n then throw .ranOut
  set { s with rest := s.rest.drop n }
  return s.rest.take n

/-- The number in the next `n` bytes. -/
def number (n : Nat) : ExtraReader Nat :=
  return (← take n).foldr (fun b high => b.toNat + 256 * high) 0

/-- Passes over `n` bytes. -/
def skip (n : Nat) : ExtraReader Unit := discard (take n)

/-- Stops unless something holds. -/
def demand (holds : Bool) : ExtraReader Unit := if holds then pure () else throw .contradiction

/-- Changes the entry. -/
def change (f : Entry → Entry) : ExtraReader Unit := modify fun s => { s with entry := f s.entry }

end ExtraReader

open ExtraReader

/-- A number of the entry that stands in eight bytes of the field if its usual place is full or the
field is long enough for all three. The result is the number of bytes read. -/
def readLarge (length : Nat) (usual : Entry → Nat) (store : Nat → Entry → Entry) :
    ExtraReader Nat := do
  if 24 ≤ length ∨ usual (← get).entry = maxLong then
    let n ← number 8
    change (store n)
    return 8
  else return 0

/-- Large sizes and a large place. -/
def readLargeNumbers (length : Nat) : ExtraReader Unit := do
  let a ← readLarge length (·.fullSize) fun n e => { e with fullSize := n }
  let b ← readLarge length (·.size) fun n e => { e with size := n }
  let c ← readLarge length (·.header) fun n e => { e with header := n }
  demand (a + b + c ≤ length)
  skip (length - (a + b + c))

/-- Three times of eight bytes, in the one form that they have. -/
def readFileTimes (length : Nat) : ExtraReader Unit := do
  demand (length = 32)
  skip 4
  demand ((← number 2) = 1)
  demand ((← number 2) = 24)
  skip 24

/-- How many of the lowest eight bits of a number are set. -/
def bitCount (n : Nat) : Nat := ((List.range 8).filter n.testBit).length

/-- Times of four bytes; the first byte tells which of three there are. Only the first may be meant
where the field has room for one. -/
def readTimes (length : Nat) : ExtraReader Unit := do
  let present ← number 1
  demand (length = 5 ∨ length = 1 + 4 * bitCount present)
  if present.testBit 0 ∨ length = 5 then skip 4
  if present.testBit 1 ∧ 5 < length then skip 4
  if present.testBit 2 ∧ 5 < length then skip 4

/-- A text in UTF-8 that stands for some bytes of the entry, which it names by their checksum. -/
def readText (length : Nat) (stands : Entry → List UInt8) : ExtraReader (List UInt8 × String) := do
  skip 1
  let sum ← number 4
  demand (5 ≤ length)
  let bytes ← take (length - 5)
  demand ((checksum ⟨(stands (← get).entry).toArray⟩).toNat = sum)
  match String.fromUTF8? ⟨bytes.toArray⟩ with
  | some text => return (bytes, text)
  | none => throw .contradiction

/-- The name in UTF-8. -/
def readName (length : Nat) : ExtraReader Unit := do
  let (rawName, name) ← readText length (·.rawName)
  change fun e => { e with rawName, name }

/-- The comment in UTF-8. -/
def readComment (length : Nat) : ExtraReader Unit := do
  let (_, comment) ← readText length (·.comment.toUTF8.toList)
  change fun e => { e with comment }

/-- The mark of those who make seals. -/
def sealMark : Nat := 0x4541

/-- What the data is sealed with, and how it is compressed under the seal. -/
def readSeal (length : Nat) : ExtraReader Unit := do
  demand (length = 7)
  let version ← number 2
  let maker ← number 2
  let strength ← number 1
  let method ← number 2
  demand (maker = sealMark)
  demand (version = 1 ∨ version = 2)
  demand (strength = 1 ∨ strength = 2 ∨ strength = 3)
  change fun e => { e with method, isSealed := true }

/-- A field of some kind. -/
def readField (kind length : Nat) : ExtraReader Unit :=
  match kind with
  | 0x0001 => readLargeNumbers length
  | 0x000A => readFileTimes length
  | 0x5455 => readTimes length
  | 0x6375 => readComment length
  | 0x7075 => readName length
  | 0x9901 => readSeal length
  | _ => skip length

/-- Fields up to the end of the bytes. Each takes a byte or more, so that their number is fuel
enough. -/
def readFields : Nat → ExtraReader Unit
  | 0 => pure ()
  | fuel + 1 => do
    if (← get).rest.isEmpty then return
    let kind ← number 2
    let length ← number 2
    readField kind length
    readFields fuel

/-- The entry with its added fields. -/
def Entry.withExtra? (e : Entry) (extra : List UInt8) : Option Entry :=
  match (readFields extra.length).run.run ⟨extra, e⟩ with
  | (.error .contradiction, _) => none
  | (_, s) => some s.entry

end Precedents.Archive
