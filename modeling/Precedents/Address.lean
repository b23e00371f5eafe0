import Precedents.Error
import Precedents.Text.Blank
import Precedents.Text.Count

/-!
# Addresses

An address names a cell of a sheet by column letters and a row number, as in `B7`; a dollar sign
fixes the part after it, which then stays when a formula is moved. Rows and columns are counted from
0 here and from 1 in the text. Column letters are a bijective numeral of base 26: there is no zero
letter, so `Z` is followed by `AA`.
-/

namespace Precedents

/-- A cell of a sheet and which parts of its name are fixed. -/
structure Address where
  row : Nat
  col : Nat
  rowFixed : Bool
  colFixed : Bool
  deriving DecidableEq

/-- The value of a Latin letter as a digit, from 1 to 26 in either case. -/
def letterValue (c : Char) : Nat := c.toUpper.toNat - 'A'.toNat + 1

/-- The value of a numeral of column letters, most significant first. -/
def lettersValue (cs : List Char) : Nat := cs.foldl (fun n c => 26 * n + letterValue c) 0

/-- The numeral in column letters of a positive number, and nothing for zero. -/
def columnNumeral (n : Nat) : List Char :=
  if n = 0 then []
  else columnNumeral ((n - 1) / 26) ++ [Char.ofNat ('A'.toNat + (n - 1) % 26)]
termination_by n
decreasing_by omega

/-- The letters of a column. -/
def columnLetters (col : Nat) : List Char := columnNumeral (col + 1)

/-- The column that some letters name. Texts that hold something else are measured and reported by
their bytes. -/
def columnOfLetters (letters : List Char) : Except Error Nat :=
  let bytes := letters.flatMap String.utf8EncodeChar
  if bytes.isEmpty then throw (.malformedAddress .emptyLetters)
  else if 3 < bytes.length then
    throw (.malformedAddress (.longLetters (String.ofList letters)))
  else match bytes.find? fun b => !(Char.ofUInt8 b).isAlpha with
    | some b => throw (.malformedAddress (.badLetter b))
    | none =>
      let col := lettersValue letters - 1
      if columnLimit ≤ col then throw (.columnBeyondGrid col) else pure col

namespace Address

/-- An address with no fixed part. -/
def relative (row col : Nat) : Address := ⟨row, col, false, false⟩

/-- Takes a dollar sign off the text and says whether there was one. -/
def takeMark : List Char → Bool × List Char
  | '$' :: cs => (true, cs)
  | cs => (false, cs)

/-- Reads an address from a text that has no blanks around it. A row number too great for 32 bits
is reported as the greatest that fits. -/
def ofChars (text : List Char) : Except Error Address := do
  let (colFixed, afterMark) := takeMark text
  let letters := afterMark.takeWhile Char.isAlpha
  if letters.isEmpty then
    throw (.malformedAddress (.noLetters (String.ofList text)))
  let col ← columnOfLetters letters
  let (rowFixed, digits) := takeMark (afterMark.dropWhile Char.isAlpha)
  match Text.digits? digits with
  | none => throw (.malformedAddress (.badRow (String.ofList text)))
  | some 0 => throw (.malformedAddress (.rowZero (String.ofList text)))
  | some (row + 1) =>
    if rowLimit ≤ row then throw (.rowBeyondGrid (min row (Text.limit32 - 1)))
    else pure ⟨row, col, rowFixed, colFixed⟩

/-- Reads an address, with blanks allowed around it. -/
def parse (s : String) : Except Error Address := ofChars (Text.trim s.toList)

/-- The characters of an address: marks, capital letters, and the row without leading zeros. -/
def chars (a : Address) : List Char :=
  (if a.colFixed then ['$'] else []) ++ columnLetters a.col ++
    (if a.rowFixed then ['$'] else []) ++ Nat.toDigits 10 (a.row + 1)

/-- The text of an address. -/
def render (a : Address) : String := String.ofList a.chars

/-- The address as seen from a formula that has moved down by `rows` and right by `cols`. Fixed
parts stay; there is no address outside the grid. -/
def shift (a : Address) (rows cols : Int) : Option Address :=
  let row : Int := if a.rowFixed then a.row else a.row + rows
  let col : Int := if a.colFixed then a.col else a.col + cols
  if 0 ≤ row ∧ row < rowLimit ∧ 0 ≤ col ∧ col < columnLimit then
    some { a with row := row.toNat, col := col.toNat }
  else none

/-- Whether the address lies on the grid. -/
def InGrid (a : Address) : Prop := a.row < rowLimit ∧ a.col < columnLimit

end Address

end Precedents
