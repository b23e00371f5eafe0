import Precedents.Package

/-!
# Relationships

How the main part of a package refers to its sheets: by identifiers, each of which has a type and a
target. Only relationships to sheets matter here. Sheets of other kinds than worksheets have no
cells.
-/

namespace Precedents

/-- What a relationship to a sheet points at. -/
inductive SheetTarget where
  /-- A part with cells. -/
  | worksheet (path : String)
  /-- A chart, a dialog or macros. -/
  | cellless
  deriving DecidableEq

/-- The relationships to sheets in their order. -/
structure Relationships where
  entries : List (String × SheetTarget)
  deriving DecidableEq

/-- The types of sheets without cells. -/
def celllessTypes : List String :=
  ["/chartsheet", "/dialogsheet", "/xlMacrosheet", "/xlIntlMacrosheet"]

/-- The path of a target. One that begins with a slash is counted from the root of the package, any
other from the folder of the main part. -/
def targetPath (target : String) : String :=
  match target.toList with
  | '/' :: path => String.ofList path
  | _ => "xl/" ++ target

/-- What a relationship of some type points at, if it is a sheet. Types are told by their ends. -/
def SheetTarget.ofType? (type target : String) : Option SheetTarget :=
  let ends (tail : String) : Bool := tail.toList.isSuffixOf type.toList
  if ends "/worksheet" then some (.worksheet (targetPath target))
  else if celllessTypes.any ends then some .cellless
  else none

/-- The relationship of a tag, if it has all it needs and points at a sheet. -/
def Relationships.entry? (tag : Markup.Tag) : Option (String × SheetTarget) := do
  if !tag.isNamed "Relationship" then none
  else
    let id ← tag.value? "Id"
    let target ← tag.value? "Target"
    let type ← tag.value? "Type"
    return (id, ← SheetTarget.ofType? type target)

/-- The target of an identifier. Of several relationships with one identifier the last counts. -/
def Relationships.target? (r : Relationships) (id : String) : Option SheetTarget :=
  r.entries.reverse.lookup id

/-- The relationships that a document tells. -/
def Relationships.ofDocument (d : Markup.Document) : Except Failure Relationships :=
  if d.complete then pure ⟨d.tags.filterMap Relationships.entry?⟩ else throw .badMarkup

end Precedents
