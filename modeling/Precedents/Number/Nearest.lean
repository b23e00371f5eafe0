/-!
# The nearest double

The bits of the IEEE double nearest to a positive rational, by exact arithmetic on natural numbers.
The rational is scaled so that its integral part has 53 bits, or fewer where the least exponent
would be passed, and rounded to an integer with a half going to the even neighbour. The bits of the
result are the exponent field and that integer added up, so that a carry out of the 53 bits moves on
to the next exponent by itself.
-/

namespace Precedents.Number

/-- The bits of positive infinity. -/
def infinityBits : Nat := 0x7FF <<< 52

/-- The bits of a NaN. -/
def nanBits : Nat := 0x7FF8 <<< 48

/-- The sign bit. -/
def signBit : Nat := 1 <<< 63

/-- The quotient rounded to the nearest integer, a half to the even one. -/
def divNearest (num den : Nat) : Nat :=
  let q := num / den
  let r := num % den
  if den < 2 * r ∨ (den = 2 * r ∧ q % 2 = 1) then q + 1 else q

/-- The greatest `l` with `2 ^ l ≤ num / den`, for positive `num` and `den`. -/
def binaryOrder (num den : Nat) : Int :=
  let l : Int := (num.log2 : Int) - den.log2
  if den <<< l.toNat ≤ num <<< (-l).toNat then l else l - 1

/-- The bits of the double nearest to `num / den`, for positive `den`. -/
def nearestBits (num den : Nat) : Nat :=
  if num = 0 then 0
  else
    let k := min (52 - binaryOrder num den) 1074
    let significand := divNearest (num <<< k.toNat) (den <<< (-k).toNat)
    min (((1074 - k).toNat <<< 52) + significand) infinityBits

end Precedents.Number
