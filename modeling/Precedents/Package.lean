import Precedents.Error
import Precedents.Markup.Lexing

/-!
# Packages

A workbook file is a package of named parts, each of which holds a markup document. Here are
packages as a reader sees them, and the causes for which one cannot be read.
-/

namespace Precedents

/-- The document that a part holds. -/
def Part.document (p : Part) : Markup.Document := .ofPart p

/-- The parts of a package by name. A part that is there and cannot be opened has no data. Of two
parts with one name the first counts. -/
structure Package where
  parts : List (String × Option Part)
  deriving DecidableEq

/-- The part with this name, if there is one that can be opened. -/
def Package.part? (p : Package) (name : String) : Option Part :=
  (p.parts.lookup name).bind id

/-- Why a file cannot be read as a workbook. -/
inductive Failure where
  /-- There is no such file, or it may not be read. -/
  | inaccessible
  /-- The file is no archive. -/
  | badArchive
  /-- A part does not hold a document. -/
  | badMarkup
  /-- The package does not say what its parts are. -/
  | noContentTypes
  /-- A sheet is listed without its name or its relationship. -/
  | namelessSheet
  | missingPart (path : String)
  | badCellReference (reference : String) (why : Error)
  | badStringIndex (text : String)
  | stringIndexBeyond (index : Nat)
  /-- The workbook refused what the package holds. -/
  | refused (why : Error)
  deriving DecidableEq

/-- The text of a failure. The first three are told in the words of whoever met them. -/
def Failure.message? : Failure → Option String
  | inaccessible | badArchive | badMarkup => none
  | noContentTypes => some "Invalid XLSX format: Missing [Content_Types].xml"
  | namelessSheet => some "Invalid XLSX format: <sheet> without name or r:id"
  | missingPart path => some s!"Missing required part: {path}"
  | badCellReference reference why =>
    some s!"Parse error: Invalid cell reference '{reference}': {why.message}"
  | badStringIndex text => some s!"Parse error: Invalid shared string index: {text}"
  | stringIndexBeyond index => some s!"Parse error: Shared string index {index} out of bounds"
  | refused why => some s!"Workbook error: {why.message}"

/-- Follows the events of a document in order. A failure at an event comes before the failure to
read the document to its end. -/
def Markup.Document.follow {σ : Type} (d : Markup.Document)
    (event : σ → Markup.Event → Except Failure σ) (start : σ) : Except Failure σ := do
  let final ← d.events.foldlM event start
  if d.complete then pure final else throw .badMarkup

end Precedents
