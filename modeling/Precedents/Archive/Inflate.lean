import Precedents.Archive.PrefixCode

/-!
# Inflating

Compressed data of an archive and the bytes it stands for. The data consists of sections, the last
of which is marked. A section holds bytes as they are, or symbols in a prefix code that is fixed or
described in the section. A symbol is a byte, the end of the section, or a length that comes with a
distance and repeats bytes that have been written before.
-/

namespace Precedents.Archive

open Unpack

/-- The base values and the numbers of extra bits of the length symbols from 257 up. -/
def lengthSymbols : Array (Nat × Nat) := #[
  (3, 0), (4, 0), (5, 0), (6, 0), (7, 0), (8, 0), (9, 0), (10, 0), (11, 1), (13, 1), (15, 1),
  (17, 1), (19, 2), (23, 2), (27, 2), (31, 2), (35, 3), (43, 3), (51, 3), (59, 3), (67, 4),
  (83, 4), (99, 4), (115, 4), (131, 5), (163, 5), (195, 5), (227, 5), (258, 0)]

/-- The base values and the numbers of extra bits of the distance symbols. -/
def distanceSymbols : Array (Nat × Nat) := #[
  (1, 0), (2, 0), (3, 0), (4, 0), (5, 1), (7, 1), (9, 2), (13, 2), (17, 3), (25, 3), (33, 4),
  (49, 4), (65, 5), (97, 5), (129, 6), (193, 6), (257, 7), (385, 7), (513, 8), (769, 8),
  (1025, 9), (1537, 9), (2049, 10), (3073, 10), (4097, 11), (6145, 11), (8193, 12), (12289, 12),
  (16385, 13), (24577, 13)]

/-- Reads the number that a symbol with extra bits stands for. -/
def readExtra (table : Array (Nat × Nat)) (symbol : Nat) : Unpack Nat :=
  match table[symbol]? with
  | none => throw .corrupt
  | some (base, extra) => return base + (← bits extra)

/-- The two codes of a section: of bytes and lengths, and of distances. -/
structure SectionCodes where
  main : PrefixCode
  distance : PrefixCode

/-- Writes the symbols of a section up to its end. Each takes a bit or more, so that the number of
bits is fuel enough. -/
def readSymbols (codes : SectionCodes) : Nat → Unpack Unit
  | 0 => throw .truncated
  | fuel + 1 => do
    let symbol ← codes.main.read
    if symbol < 256 then
      write symbol.toUInt8
      readSymbols codes fuel
    else if symbol = 256 then return
    else
      let length ← readExtra lengthSymbols (symbol - 257)
      let distance ← readExtra distanceSymbols (← codes.distance.read)
      modify (·.repeatBytes distance length)
      readSymbols codes fuel

/-- Writes a section whose bytes stand as they are, after their number and its complement. -/
def readStored : Unpack Unit := do
  align
  let length ← bits 16
  let complement ← bits 16
  if length + complement ≠ 0xFFFF then throw .corrupt
  copy length

/-- The lengths of the fixed codes. They have codes also for symbols that stand for nothing. -/
def fixedCodes : SectionCodes where
  main := .ofLengths (List.replicate 144 8 ++ List.replicate 112 9 ++ List.replicate 24 7 ++
    List.replicate 8 8)
  distance := .ofLengths (List.replicate 32 5)

/-- The order in which the code of code lengths is described. -/
def lengthOrder : List Nat := [16, 17, 18, 0, 8, 7, 9, 6, 10, 5, 11, 4, 12, 3, 13, 2, 14, 1, 15]

/-- Reads the lengths of `n` symbols, three bits each. -/
def readShortLengths : Nat → Unpack (List Nat)
  | 0 => pure []
  | n + 1 => do
    let length ← bits 3
    return length :: (← readShortLengths n)

/-- The lengths that a symbol of the code of code lengths adds to those before it, the latest first.
A length may be repeated, and runs of zeros are written short. -/
def readRun (lengths : List Nat) (symbol : Nat) : Unpack (List Nat) := do
  if symbol < 16 then return [symbol]
  else if symbol = 16 then
    match lengths with
    | [] => throw .corrupt
    | last :: _ => return List.replicate (3 + (← bits 2)) last
  else if symbol = 17 then return List.replicate (3 + (← bits 3)) 0
  else return List.replicate (11 + (← bits 7)) 0

/-- Reads code lengths after `lengths`, which are in reverse, until `wanted` of them are there. -/
def readLengths (code : PrefixCode) (wanted : Nat) (lengths : List Nat) :
    Nat → Unpack (List Nat)
  | 0 => throw .truncated
  | fuel + 1 => do
    if lengths.length < wanted then
      let run ← readRun lengths (← code.read)
      readLengths code wanted (run ++ lengths) fuel
    else if lengths.length = wanted then return lengths.reverse
    else throw .corrupt

/-- The greatest number of symbols for bytes and lengths that a section may describe. -/
def mainLimit : Nat := 286

/-- The greatest number of symbols for distances that a section may describe. -/
def distanceLimit : Nat := 30

/-- Reads the description of the codes of a section. -/
def readCodes : Unpack SectionCodes := do
  let mainCount := (← bits 5) + 257
  let distanceCount := (← bits 5) + 1
  let orderCount := (← bits 4) + 4
  if mainLimit < mainCount ∨ distanceLimit < distanceCount then throw .corrupt
  let described := lengthOrder.zip (← readShortLengths orderCount)
  let code := PrefixCode.ofLengths ((List.range 19).map fun n => (described.lookup n).getD 0)
  if !code.isComplete then throw .corrupt
  let wanted := mainCount + distanceCount
  let lengths ← readLengths code wanted [] (wanted + 1)
  let main := PrefixCode.ofLengths (lengths.take mainCount)
  let distance := PrefixCode.ofLengths (lengths.drop mainCount)
  if !main.isUsable || !distance.isUsable then throw .corrupt
  return ⟨main, distance⟩

/-- Writes a section of the kind that its two bits tell. -/
def readSection (kind : Nat) : Unpack Unit := do
  match kind with
  | 0 => readStored
  | 1 => readSymbols fixedCodes ((← get).left + 1)
  | 2 =>
    let codes ← readCodes
    readSymbols codes ((← get).left + 1)
  | _ => throw .corrupt

/-- Writes sections up to the last one. Each takes three bits or more, so that the number of bits is
fuel enough. -/
def readSections : Nat → Unpack Unit
  | 0 => throw .truncated
  | fuel + 1 => do
    let last ← bits 1
    readSection (← bits 2)
    if last = 1 then return
    readSections fuel

/-- What compressed data was unpacked to: what was written, how much had been written when blocks of
the data were used up, and how the unpacking ended. -/
structure Inflated where
  out : ByteArray
  pauses : List Nat
  ending : Ending

/-- What compressed data stands for. -/
def inflate (data : ByteArray) : Inflated :=
  match (readSections (8 * data.size + 1)).run.run (.start data) with
  | (.ok (), u) => ⟨u.out, u.pauses.reverse, .finished⟩
  | (.error ending, u) => ⟨u.out, u.pauses.reverse, ending⟩

end Precedents.Archive
