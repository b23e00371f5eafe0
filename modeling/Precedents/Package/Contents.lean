import Precedents.Package
import Precedents.Text.Count

/-!
# Contents

What the main part of a package tells: the sheets in their order, each with a name and the
identifier of a relationship, and the sheet that was active when the file was written.
-/

namespace Precedents

/-- A sheet that is listed: its name and the identifier of its relationship. -/
structure SheetEntry where
  name : String
  relation : String
  deriving DecidableEq

/-- The sheets of a package and the place of the active one. -/
structure Contents where
  sheets : List SheetEntry
  activeTab : Nat
  deriving DecidableEq

/-- The entry of a sheet's tag. The name has no prefix; the identifier has one, whatever it is, and
of several the last counts. -/
def SheetEntry.ofTag? (tag : Markup.Tag) : Option SheetEntry := do
  let name ← tag.value? "name"
  let relation ← tag.attributes.reverse.find? fun a =>
    Markup.hasPrefix a.key && Markup.localName a.key == Markup.ascii "id"
  return ⟨name, ← relation.value?⟩

/-- The active tab that a view tells; one that cannot be read counts as the first. -/
def tabOfView (tag : Markup.Tag) : Nat :=
  ((tag.value? "activeTab").bind (Text.countBelow? Text.limit64)).getD 0

/-- The contents that the tags of a document tell. Only the first view counts. -/
def Contents.ofTags (tags : List Markup.Tag) : Except Failure Contents := do
  let sheets ← (tags.filter (·.isNamed "sheet")).mapM fun tag =>
    match SheetEntry.ofTag? tag with
    | some entry => pure entry
    | none => throw .namelessSheet
  return ⟨sheets, ((tags.find? (·.isNamed "workbookView")).map tabOfView).getD 0⟩

/-- The contents that a document tells. -/
def Contents.ofDocument (d : Markup.Document) : Except Failure Contents := do
  let contents ← Contents.ofTags d.tags
  if d.complete then pure contents else throw .badMarkup

end Precedents
