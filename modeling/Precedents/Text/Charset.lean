/-!
# Sets of characters

A set of characters written as closed ranges of code points, in increasing order. The tables of
character properties are values of this type.
-/

namespace Precedents.Text

/-- A set of characters as a list of closed ranges of code points. -/
abbrev Charset := List (Nat × Nat)

/-- Whether one of the ranges holds the character. -/
def Charset.covers (set : Charset) (c : Char) : Bool :=
  set.any fun range => range.1 ≤ c.toNat && c.toNat ≤ range.2

end Precedents.Text
