import Precedents.Archive.Trailer
import Precedents.Text.Lossy

/-!
# Entries

What the directory of an archive tells of a part: its name, how its data is compressed, what the
checksum of the data is, and where its header stands. Names and comments are UTF-8 if they are
marked so, and otherwise in a set of 256 characters of which the first 128 are ASCII.
-/

namespace Precedents.Archive

/-- An entry of the directory. Data that is locked or sealed is not to be had without a key; a seal
is told by a field of its own. -/
structure Entry where
  rawName : List UInt8
  name : String
  comment : String
  method : Nat
  checksum : Nat
  size : Nat
  fullSize : Nat
  header : Nat
  isLocked : Bool
  isSealed : Bool
  deriving DecidableEq

/-- The characters that the bytes from 128 up stand for in a text without the mark for UTF-8. -/
def highCharacters : List Char :=
  ("ÇüéâäàåçêëèïîìÄÅÉæÆôöòûùÿÖÜ¢£¥₧ƒáíóúñÑªº¿⌐¬½¼¡«»░▒▓│┤╡╢╖╕╣║╗╝╜╛┐└┴┬├─┼╞╟╚╔╩╦╠═╬╧╨╤╥╙╘╒╓╫╪┘┌" ++
    "█▄▌▐▀αßΓπΣσµτΦΘΩδ∞φε∩≡±≥≤⌠⌡÷≈°∙·√ⁿ²■\u00A0").toList

/-- The character of a byte in a text without the mark for UTF-8. -/
def oldCharacter (b : UInt8) : Char :=
  if b < 128 then Char.ofUInt8 b else highCharacters.getD (b.toNat - 128) ' '

/-- The text that some bytes write. -/
def textOf (isUtf8 : Bool) (bytes : List UInt8) : String :=
  String.ofList (if isUtf8 then Text.lossy bytes else bytes.map oldCharacter)

/-- An entry as the fields of a place in the directory tell it, before those that may be added. The
result has also the bytes of the added fields and the place of the next entry. -/
def Entry.read? (data : ByteArray) (place : Nat) : Option (Entry × List UInt8 × Nat) := do
  guard ((← long? data place) = entryMark)
  let flags ← short? data (place + 8)
  let nameLength ← short? data (place + 28)
  let extraLength ← short? data (place + 30)
  let commentLength ← short? data (place + 32)
  let extraPlace := place + leastEntry + nameLength
  let commentPlace := extraPlace + extraLength
  let rawName ← bytes? data (place + leastEntry) nameLength
  let extra ← bytes? data extraPlace extraLength
  let comment ← bytes? data commentPlace commentLength
  let entry := {
    rawName
    name := textOf (flags.testBit 11) rawName
    comment := textOf (flags.testBit 11) comment
    method := ← short? data (place + 10)
    checksum := ← long? data (place + 16)
    size := ← long? data (place + 20)
    fullSize := ← long? data (place + 24)
    header := ← long? data (place + 42)
    isLocked := flags.testBit 0
    isSealed := false }
  return (entry, extra, commentPlace + commentLength)

end Precedents.Archive
