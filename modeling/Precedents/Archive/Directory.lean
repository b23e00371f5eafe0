import Precedents.Archive.Delivery
import Precedents.Archive.Extra
import Precedents.Package

/-!
# Archives

A package as it is stored in a file: the data of its parts one after another, each behind a header
of its own, and then a directory that says where the headers are, how the data is compressed and
what its checksum is. Where the directory is, is told at the end of the file. The headers are not
looked at before their part is wanted.
-/

namespace Precedents.Archive

/-- The method by which data is stored as it is. -/
def storedMethod : Nat := 0

/-- The method by which data is compressed. -/
def deflatedMethod : Nat := 8

/-- The method that stands in for another where data is sealed. -/
def sealedMethod : Nat := 99

/-- An entry whose added fields have been read, if it is sound: what is said to be sealed has a
seal, and its header is counted from where the archive begins. -/
def Entry.placed? (e : Entry) (origin : Nat) : Option Entry := do
  guard (e.method ≠ sealedMethod || e.isSealed)
  guard (e.header + origin < limitHuge)
  return { e with header := e.header + origin }

/-- The next `n` entries of the directory. -/
def entries? (data : ByteArray) (origin place : Nat) : Nat → Option (List Entry)
  | 0 => some []
  | n + 1 => do
    let (entry, extra, next) ← Entry.read? data place
    let entry ← (← entry.withExtra? extra).placed? origin
    return entry :: (← entries? data origin next n)

/-- The entries of an archive, told by the last trailer whose directory holds good. -/
def directory? (data : ByteArray) : Option (List Entry) :=
  (trailers data).findSome? fun t => do
    let extent ← t.directory? data
    entries? data extent.origin extent.start extent.count

/-- The mark of the header in front of the data of an entry. -/
def headerMark : Nat := 0x04034B50

/-- The size of a header without its name and its added fields. -/
def leastHeader : Nat := 30

/-- The place of an entry's data, if there is a header in front of it. -/
def Entry.start? (data : ByteArray) (e : Entry) : Option Nat := do
  guard ((← long? data e.header) = headerMark)
  let nameLength ← short? data (e.header + 26)
  let extraLength ← short? data (e.header + 28)
  return e.header + leastHeader + nameLength + extraLength

/-- The part that the data of an entry holds. Data that does not agree with its checksum is not
whole. Entries that are locked or sealed or compressed in another way cannot be opened. -/
def Entry.part? (data : ByteArray) (e : Entry) : Option Part := do
  guard (!e.isLocked && !e.isSealed)
  let start ← e.start? data
  let raw := data.extract start (start + e.size)
  let isRight (out : ByteArray) : Bool := (Archive.checksum out).toNat == e.checksum
  if e.method = storedMethod then some (.ofBytesAnd raw.toList (isRight raw))
  else if e.method = deflatedMethod then some ((inflate raw).part isRight)
  else none

/-- The package that a file holds, if it is an archive. Of two entries with one name the last
counts. -/
def package? (data : ByteArray) : Option Package := do
  let entries ← directory? data
  return ⟨entries.reverse.map fun e => (e.name, e.part? data)⟩

end Precedents.Archive
