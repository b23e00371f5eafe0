/-!
# Damaged text

UTF-8 text that may be damaged. What is no character is read as the replacement character, once for
each longest run of bytes that a character could have begun with. Text that is not damaged is read
as it is.
-/

namespace Precedents.Text

/-- Whether a byte can stand inside a character. -/
def isContinuation (b : UInt8) : Bool := 0x80 ≤ b && b ≤ 0xBF

/-- How many bytes follow the first byte of a character, if the byte can be one. -/
def tailLength? (lead : UInt8) : Option Nat :=
  if lead < 0x80 then some 0
  else if lead < 0xC2 then none
  else if lead < 0xE0 then some 1
  else if lead < 0xF0 then some 2
  else if lead < 0xF5 then some 3
  else none

/-- Whether a byte can be the second of a character. This rules out codes that have a shorter form,
surrogates and codes beyond the last. -/
def canFollow (lead b : UInt8) : Bool :=
  if lead = 0xE0 then 0xA0 ≤ b && b ≤ 0xBF
  else if lead = 0xED then 0x80 ≤ b && b ≤ 0x9F
  else if lead = 0xF0 then 0x90 ≤ b && b ≤ 0xBF
  else if lead = 0xF4 then 0x80 ≤ b && b ≤ 0x8F
  else isContinuation b

/-- The bytes that go on with the character of a first byte. -/
def tailOf (lead : UInt8) (bytes : List UInt8) : List UInt8 :=
  match bytes.take ((tailLength? lead).getD 0) with
  | [] => []
  | b :: rest => if canFollow lead b then b :: rest.takeWhile isContinuation else []

/-- The bits that the first byte of a character adds to its code. -/
def leadBits (lead : UInt8) : Nat :=
  if lead < 0x80 then lead.toNat
  else if lead < 0xE0 then lead.toNat % 32
  else if lead < 0xF0 then lead.toNat % 16
  else lead.toNat % 8

/-- The character of a first byte and the bytes after it. -/
def charOf (lead : UInt8) (tail : List UInt8) : Char :=
  if tailLength? lead = some tail.length then
    Char.ofNat (tail.foldl (fun code b => 64 * code + b.toNat % 64) (leadBits lead))
  else '\uFFFD'

/-- The text of some bytes, damaged or not. -/
def lossy : List UInt8 → List Char
  | [] => []
  | lead :: bytes =>
    let tail := tailOf lead bytes
    charOf lead tail :: lossy (bytes.drop tail.length)
termination_by bytes => bytes.length
decreasing_by
  simp only [List.length_drop, List.length_cons]
  omega

end Precedents.Text
