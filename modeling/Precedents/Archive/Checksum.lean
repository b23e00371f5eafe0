/-!
# Checksums

The cyclic redundancy check by which an archive guards the data of its entries: the remainder of the
data as a polynomial over two elements, with the bits of each byte taken from the lowest up.
-/

namespace Precedents.Archive

/-- The remainder after one more zero bit. -/
def shiftRemainder (r : UInt32) : UInt32 :=
  if r &&& 1 = 1 then (r >>> 1) ^^^ 0xEDB88320 else r >>> 1

/-- The remainders that the values of a byte leave. -/
def byteRemainders : Array UInt32 :=
  Array.ofFn fun i : Fin 256 => shiftRemainder (shiftRemainder (shiftRemainder (shiftRemainder
    (shiftRemainder (shiftRemainder (shiftRemainder (shiftRemainder i.val.toUInt32)))))))

/-- The remainder after one more byte. -/
def addByte (r : UInt32) (b : UInt8) : UInt32 :=
  byteRemainders.getD ((r.toUInt8 ^^^ b).toNat) 0 ^^^ (r >>> 8)

/-- The checksum of some bytes. -/
def checksum (bytes : ByteArray) : UInt32 := bytes.foldl addByte 0xFFFFFFFF ^^^ 0xFFFFFFFF

end Precedents.Archive
