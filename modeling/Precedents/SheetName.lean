import Precedents.Coord
import Precedents.Text.Lowercase

/-!
# Sheet names

Which names a sheet may have, when two names are the same, and how a name is written in front of an
address. Names that differ only in case are the same name. In a reference a name stands between
apostrophes, with the apostrophes it holds doubled.
-/

namespace Precedents.SheetName

/-- The characters that no sheet name has. -/
def forbidden : List Char := [':', '\\', '/', '?', '*', '[', ']']

/-- What is wrong with a name, if something is. The length is measured in characters. -/
def flaw? (name : String) : Option NameFlaw :=
  let cs := name.toList
  if cs.isEmpty || sheetNameLimit < cs.length then some .length
  else (cs.find? fun c => forbidden.contains c).map .forbidden

/-- The form in which names are compared. -/
def fold (name : String) : String := Text.lowercase name

/-- A name with each apostrophe doubled. -/
def double : List Char → List Char
  | [] => []
  | '\'' :: cs => '\'' :: '\'' :: double cs
  | c :: cs => c :: double cs

/-- A name between apostrophes. -/
def quote (name : String) : String := String.ofList ('\'' :: double name.toList ++ ['\''])

/-- The name of a cell in a workbook: the quoted name of its sheet and its address. -/
def qualify (name : String) (c : Coord) : String := quote name ++ "!" ++ c.address.render

end Precedents.SheetName
