import Precedents.Archive.Number

/-!
# Trailers

What stands at the end of an archive and tells where its directory is. Offsets are counted from
where the archive begins, which is found from the difference between the place that is told and the
place where something is met. A large archive has a second trailer with wider fields, and between
the two a locator that points at it. Of several trailers the last that holds good counts.
-/

namespace Precedents.Archive

/-- Where the directory of an archive is: how far from the start of the file the archive begins, the
place of the first entry, and the number of entries. -/
structure Extent where
  origin : Nat
  start : Nat
  count : Nat
  deriving DecidableEq

/-- What a trailer tells, and where it stands. -/
structure Trailer where
  place : Nat
  disk : Nat
  directoryDisk : Nat
  entriesHere : Nat
  entries : Nat
  directory : Nat
  deriving DecidableEq

/-- The mark of a trailer. -/
def trailerMark : Nat := 0x06054B50

/-- The mark of the trailer of a large archive. -/
def largeTrailerMark : Nat := 0x06064B50

/-- The mark of the locator of a large trailer. -/
def locatorMark : Nat := 0x07064B50

/-- The mark of an entry of the directory. -/
def entryMark : Nat := 0x02014B50

/-- The trailer at a place. Its comment has to end within the file. -/
def Trailer.read? (data : ByteArray) (place : Nat) : Option Trailer := do
  guard ((← long? data place) = trailerMark)
  let comment ← short? data (place + 20)
  guard (place + 22 + comment ≤ data.size)
  return { place
           disk := ← short? data (place + 4)
           directoryDisk := ← short? data (place + 6)
           entriesHere := ← short? data (place + 8)
           entries := ← short? data (place + 10)
           directory := ← long? data (place + 16) }

/-- How far from the start of the file the archive begins, told by the first entry that is met from
the place of the directory on. An archive without entries ends where its directory begins. -/
def Trailer.origin? (data : ByteArray) (t : Trailer) : Option Nat :=
  if t.entries = 0 then some (t.place - t.directory)
  else do
    guard (t.directory < t.place)
    let first ← (marks data entryMark t.directory (t.place - t.directory)).head?
    return first - t.directory

/-- Where the directory is, told by the trailer alone. -/
def Trailer.extent? (data : ByteArray) (t : Trailer) : Option Extent := do
  let origin ← t.origin? data
  guard (t.disk = t.directoryDisk)
  return ⟨origin, origin + t.directory, t.entriesHere⟩

/-- What the locator of a large trailer tells, and where it stands. -/
structure Locator where
  place : Nat
  disk : Nat
  trailer : Nat
  disks : Nat
  deriving DecidableEq

/-- The size of a locator. -/
def Locator.size : Nat := 20

/-- The locator in front of a trailer. -/
def Trailer.locator? (data : ByteArray) (t : Trailer) : Option Locator := do
  guard (Locator.size ≤ t.place)
  let place := t.place - Locator.size
  guard ((← long? data place) = locatorMark)
  return { place
           disk := ← long? data (place + 4)
           trailer := ← huge? data (place + 8)
           disks := ← long? data (place + 16) }

/-- What the trailer of a large archive tells, and where it stands. -/
structure LargeTrailer where
  place : Nat
  rest : Nat
  madeBy : Nat
  neededBy : Nat
  disk : Nat
  directoryDisk : Nat
  entriesHere : Nat
  entries : Nat
  directory : Nat
  deriving DecidableEq

/-- The large trailer at a place. -/
def LargeTrailer.read? (data : ByteArray) (place : Nat) : Option LargeTrailer := do
  return { place
           rest := ← huge? data (place + 4)
           madeBy := ← short? data (place + 12)
           neededBy := ← short? data (place + 14)
           disk := ← long? data (place + 16)
           directoryDisk := ← long? data (place + 20)
           entriesHere := ← huge? data (place + 24)
           entries := ← huge? data (place + 32)
           directory := ← huge? data (place + 48) }

/-- The least size of a large trailer after the number that tells it. -/
def leastRest : Nat := 44

/-- The least size of an entry of the directory. -/
def leastEntry : Nat := 46

/-- Whether a large trailer is the one that a locator means: it ends where the locator begins, and
there is room for the directory in front of it. -/
def LargeTrailer.isMeant (t : LargeTrailer) (l : Locator) : Bool :=
  leastRest ≤ t.rest && t.place + 12 + t.rest == l.place && t.directoryDisk == l.disk &&
    t.entries * leastEntry + t.directory ≤ t.place

/-- Where the directory is, told by the large trailer that a locator points at. The trailer may
stand behind the place that is told, and the archive then begins so much later. -/
def Locator.extent? (data : ByteArray) (l : Locator) : Option Extent := do
  guard (l.trailer < l.place && l.disks ≤ 1)
  let t ← (marks data largeTrailerMark l.trailer (l.place - l.trailer)).findSome? fun place =>
    (LargeTrailer.read? data place).filter (·.isMeant l)
  let origin := t.place - l.trailer
  guard (t.entriesHere ≤ t.entries && t.neededBy ≤ t.madeBy && t.disk == t.directoryDisk)
  guard (t.directory + origin < limitHuge)
  return ⟨origin, t.directory + origin, t.entries⟩

/-- Whether a field of the trailer is at its limit, so that a large trailer may tell more. -/
def Trailer.isFull (t : Trailer) : Bool := t.entries == maxShort || t.directory == maxLong

/-- Where the directory is that a trailer closes. -/
def Trailer.directory? (data : ByteArray) (t : Trailer) : Option Extent :=
  match if t.isFull then t.locator? data else none with
  | some l => l.extent? data
  | none => t.extent? data

/-- The trailers of a file, the last first. -/
def trailers (data : ByteArray) : List Trailer :=
  (List.range (data.size - 21)).reverse.filterMap (Trailer.read? data)

end Precedents.Archive
