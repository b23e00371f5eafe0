import Precedents.Text.Charset

/-!
# Blanks

The characters with the Unicode property White_Space, and trimming by them. Addresses are read with
the blanks around them taken off, and a formula may begin with blanks.
-/

namespace Precedents.Text

/-- The characters with the Unicode property White_Space. -/
def blanks : Charset := [
  (0x9, 0xD), (0x20, 0x20), (0x85, 0x85), (0xA0, 0xA0), (0x1680, 0x1680), (0x2000, 0x200A),
  (0x2028, 0x2029), (0x202F, 0x202F), (0x205F, 0x205F), (0x3000, 0x3000)]

/-- Whether a character is white space. -/
def isBlank (c : Char) : Bool := blanks.covers c

/-- The text from its first character that is no blank. -/
def trimLeft (cs : List Char) : List Char := cs.dropWhile isBlank

/-- The text up to its last character that is no blank. -/
def trimRight (cs : List Char) : List Char := (cs.reverse.dropWhile isBlank).reverse

/-- The text without the blanks at its ends. -/
def trim (cs : List Char) : List Char := trimRight (trimLeft cs)

end Precedents.Text
