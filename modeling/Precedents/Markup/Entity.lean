/-!
# Entities

Character data of a markup document, with the entities in it resolved. Five entities have names, and
a number in decimal or hexadecimal digits stands for the character with that code. Anything else
after an ampersand makes the whole text unreadable.
-/

namespace Precedents.Markup

/-- The characters of the named entities. -/
def namedEntities : List (String × Char) :=
  [("lt", '<'), ("gt", '>'), ("amp", '&'), ("apos", '\''), ("quot", '"')]

/-- The value of a hexadecimal digit. -/
def hexValue? (c : Char) : Option Nat :=
  if c.isDigit then some (c.toNat - '0'.toNat)
  else if 'a' ≤ c ∧ c ≤ 'f' then some (c.toNat - 'a'.toNat + 10)
  else if 'A' ≤ c ∧ c ≤ 'F' then some (c.toNat - 'A'.toNat + 10)
  else none

/-- The code that at most six hexadecimal digits write; no digits write zero. -/
def hexCode? (cs : List Char) : Option Nat :=
  if 6 < cs.length then none
  else cs.foldlM (fun n c => (hexValue? c).map (16 * n + ·)) 0

/-- The code that at most seven decimal digits write; no digits write zero. -/
def decimalCode? (cs : List Char) : Option Nat :=
  if 7 < cs.length then none
  else cs.foldlM (fun n c => if c.isDigit then some (10 * n + (c.toNat - '0'.toNat)) else none) 0

/-- The character with a code, if there is one and it is not the null character. -/
def charOfCode? (code : Nat) : Option Char :=
  if code ≠ 0 ∧ code.isValidChar then some (Char.ofNat code) else none

/-- The character that an entity stands for, given by what is between ampersand and semicolon. -/
def entity? : List Char → Option Char
  | '#' :: 'x' :: digits => (hexCode? digits).bind charOfCode?
  | '#' :: digits => (decimalCode? digits).bind charOfCode?
  | name => namedEntities.lookup (String.ofList name)

/-- Whether a character belongs to an entity that has begun. -/
def inEntity (c : Char) : Bool := c != '&' && c != ';'

/-- A text with its entities resolved, if all of them can be. -/
def unescape : List Char → Option (List Char)
  | [] => some []
  | '&' :: cs => match h : cs.dropWhile inEntity with
    | ';' :: rest => do
      let c ← entity? (cs.takeWhile inEntity)
      have : rest.length < cs.length + 1 := by
        have := (List.dropWhile_suffix inEntity (l := cs)).length_le
        simp only [h, List.length_cons] at this
        omega
      return c :: (← unescape rest)
    | _ => none
  | c :: cs => (unescape cs).map (c :: ·)
termination_by cs => cs.length

/-- The text of some bytes of character data, if they are UTF-8 and all entities can be resolved. -/
def decode? (bytes : List UInt8) : Option String := do
  let raw ← String.fromUTF8? ⟨bytes.toArray⟩
  return String.ofList (← unescape raw.toList)

end Precedents.Markup
