import Precedents.Number.Nearest
import Precedents.Text.Count

/-!
# Decimal numbers

Reading of a decimal number as a double: an optional sign, digits with at most one point among or
around them, and an optional power of ten; or a word for infinity or for no number, in any case.
Nothing else is a number: no blanks, no grouping, no other base. The value is rounded once, from the
exact decimal.
-/

namespace Precedents.Number

/-- A decimal: `digits` times ten to the power of `exponent`. -/
structure Decimal where
  digits : Nat
  exponent : Int
  deriving DecidableEq

/-- Takes a sign off the text and says whether it was a minus. -/
def takeSign : List Char → Bool × List Char
  | '-' :: cs => (true, cs)
  | '+' :: cs => (false, cs)
  | cs => (false, cs)

/-- The power of ten after the digits: none, or a letter, an optional sign and digits. -/
def exponent? : List Char → Option Int
  | [] => some 0
  | c :: cs =>
    if c = 'e' ∨ c = 'E' then
      let (negative, digits) := takeSign cs
      (Text.digits? digits).map fun n => if negative then -n else n
    else none

/-- A decimal without a sign. -/
def Decimal.ofChars? (cs : List Char) : Option Decimal := do
  let whole := cs.takeWhile Char.isDigit
  let (fraction, rest) := match cs.dropWhile Char.isDigit with
    | '.' :: rest => (rest.takeWhile Char.isDigit, rest.dropWhile Char.isDigit)
    | rest => ([], rest)
  let digits ← Text.digits? (whole ++ fraction)
  let power ← exponent? rest
  return ⟨digits, power - fraction.length⟩

/-- The bits of the double nearest to a decimal. Decimals beyond all doubles are told by their
order, so that no great power of ten is computed for them. -/
def Decimal.bits (d : Decimal) : Nat :=
  let order := (Nat.toDigits 10 d.digits).length + d.exponent
  if d.digits = 0 ∨ order < -330 then 0
  else if 310 < order then infinityBits
  else nearestBits (d.digits * Nat.pow 10 d.exponent.toNat) (Nat.pow 10 (-d.exponent).toNat)

/-- The bits that a word without a sign stands for. -/
def wordBits? (cs : List Char) : Option Nat :=
  let word := cs.map Char.toLower
  if word = "inf".toList ∨ word = "infinity".toList then some infinityBits
  else if word = "nan".toList then some nanBits
  else none

/-- The bits of the double that a text stands for. -/
def bits? (s : String) : Option UInt64 := do
  let (negative, cs) := takeSign s.toList
  let magnitude ← (wordBits? cs).or ((Decimal.ofChars? cs).map Decimal.bits)
  return .ofNat (if negative then magnitude + signBit else magnitude)

end Precedents.Number
