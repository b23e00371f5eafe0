/-!
# Counts

Reading of an unsigned count in decimal: an optional plus sign, then at least one digit, with the
value below a given limit. No sign stands for a negative count, and blanks are not passed over.
-/

namespace Precedents.Text

/-- The value of a run of decimal digits, most significant first. -/
def digitsValue (cs : List Char) : Nat :=
  cs.foldl (fun n c => 10 * n + (c.toNat - '0'.toNat)) 0

/-- The value of a text of one or more digits. -/
def digits? (cs : List Char) : Option Nat :=
  if cs.isEmpty || !cs.all Char.isDigit then none else some (digitsValue cs)

/-- The count a text stands for, if it is below the limit. -/
def countBelow? (limit : Nat) (s : String) : Option Nat :=
  let cs := s.toList
  let unsigned := match cs with
    | '+' :: rest => rest
    | _ => cs
  (digits? unsigned).filter (· < limit)

/-- One more than the greatest count of 32 bits. -/
def limit32 : Nat := 1 <<< 32

/-- One more than the greatest count of 64 bits. -/
def limit64 : Nat := 1 <<< 64

end Precedents.Text
