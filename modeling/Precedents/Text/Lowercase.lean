import Precedents.Text.Casing

/-!
# Lowercase

The full Unicode lowercase of a text, by which sheet names are compared. Every character is mapped
on its own but two: the capital I with a dot becomes two characters, and the capital sigma becomes
the final form of the small letter where it ends a word. It ends a word if, with case-ignorable
characters passed over, a cased character stands before it and none after it.
-/

namespace Precedents.Text

/-- Whether the first character that is not case-ignorable has a case. -/
def meetsCased (cs : List Char) : Bool :=
  match cs.dropWhile isCaseIgnorable with
  | [] => false
  | c :: _ => isCased c

/-- The lowercase of one character between the text before it, nearest character first, and the
text after it. -/
def lowerBetween (before : List Char) (c : Char) (after : List Char) : List Char :=
  if c = 'Σ' then
    if meetsCased before && !meetsCased after then ['ς'] else ['σ']
  else if c = 'İ' then ['i', '\u0307']
  else [lowerChar c]

/-- The lowercase of a text that follows the characters `before`, the nearest of them first. -/
def lowerAfter (before : List Char) : List Char → List Char
  | [] => []
  | c :: cs => lowerBetween before c cs ++ lowerAfter (c :: before) cs

/-- The lowercase of a text. -/
def lowercase (s : String) : String := String.ofList (lowerAfter [] s.toList)

end Precedents.Text
