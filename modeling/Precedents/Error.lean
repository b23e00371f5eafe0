/-!
# Refusals of the workbook

The causes for which an address, a position or a sheet name is refused, and the text of each. A
cause carries what its text shows.
-/

namespace Precedents

/-- The number of rows of a sheet. -/
def rowLimit : Nat := 1048576

/-- The number of columns of a sheet. -/
def columnLimit : Nat := 16384

/-- The greatest number of characters in the name of a sheet. -/
def sheetNameLimit : Nat := 31

/-- What is wrong with a text that is no address. -/
inductive AddressFlaw where
  /-- The text does not begin with column letters. -/
  | noLetters (text : String)
  /-- What follows the letters is no row number. -/
  | badRow (text : String)
  /-- Rows are counted from 1. -/
  | rowZero (text : String)
  /-- There are no letters at all. -/
  | emptyLetters
  /-- A column has at most three letters. -/
  | longLetters (letters : String)
  /-- A byte among the letters is none. -/
  | badLetter (byte : UInt8)
  deriving DecidableEq

/-- What is wrong with a sheet name. -/
inductive NameFlaw where
  /-- The name is empty or too long. -/
  | length
  /-- The name holds a character that has a meaning in references or paths. -/
  | forbidden (c : Char)
  deriving DecidableEq

/-- Why an operation on a workbook is refused. -/
inductive Error where
  | malformedAddress (flaw : AddressFlaw)
  | rowBeyondGrid (row : Nat)
  | columnBeyondGrid (col : Nat)
  | sheetBeyondWorkbook (index count : Nat)
  | illegalSheetName (name : String) (flaw : NameFlaw)
  | takenSheetName (name : String)
  deriving DecidableEq

/-- The words for a flaw of an address. -/
def AddressFlaw.message : AddressFlaw → String
  | noLetters text => s!"no column letters in '{text}'"
  | badRow text => s!"invalid row number in '{text}'"
  | rowZero text => s!"row number must be >= 1 in '{text}'"
  | emptyLetters => "empty column letters"
  | longLetters letters => s!"column '{letters}' out of range"
  | badLetter byte => s!"invalid column letter '{Char.ofUInt8 byte}'"

/-- The text of a refusal. -/
def Error.message : Error → String
  | malformedAddress flaw => s!"Invalid cell address: {flaw.message}"
  | rowBeyondGrid row => s!"Row index {row} out of bounds (max: {rowLimit - 1})"
  | columnBeyondGrid col => s!"Column index {col} out of bounds (max: {columnLimit - 1})"
  | sheetBeyondWorkbook index count => s!"Sheet index {index} out of bounds (count: {count})"
  | illegalSheetName name .length =>
    s!"Invalid sheet name: '{name}' must be 1 to {sheetNameLimit} characters long"
  | illegalSheetName name (.forbidden c) => s!"Invalid sheet name: '{name}' contains '{c}'"
  | takenSheetName name => s!"Sheet name already exists: {name}"

end Precedents
