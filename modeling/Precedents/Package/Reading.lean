import Precedents.Package.Contents
import Precedents.Package.Relationships
import Precedents.Package.SharedStrings
import Precedents.Package.SheetPart
import Precedents.Workbook

/-!
# Reading a package

The workbook that a package holds. Its sheets are read one by one in the order of the contents, so
that the place of a sheet in the workbook is its place in the list. A sheet whose relationship is
not known or is not a worksheet stays empty. A workbook has at least one sheet. How the document of
a part is had from its data is left open until the end.
-/

namespace Precedents.Package

/-- The part that describes the package, and the parts that every workbook has or may have. -/
def contentTypesPart : String := "[Content_Types].xml"

/-- The main part. -/
def contentsPart : String := "xl/workbook.xml"

/-- The relationships of the main part. -/
def relationshipsPart : String := "xl/_rels/workbook.xml.rels"

/-- The shared strings, which may be missing. -/
def sharedStringsPart : String := "xl/sharedStrings.xml"

/-- A part that has to be there. -/
def require (p : Package) (name : String) : Except Failure Part :=
  match p.part? name with
  | some part => pure part
  | none => throw (.missingPart name)

/-- Takes a refusal of the workbook as a failure to read. -/
def refusable {α : Type} : Except Error α → Except Failure α
  | .ok a => pure a
  | .error why => throw (.refused why)

section

variable (document : Part → Markup.Document) (p : Package)

/-- The shared strings of the package. -/
def sharedStrings : Except Failure (Array String) :=
  match p.part? sharedStringsPart with
  | some part => SharedStrings.ofDocument (document part)
  | none => pure #[]

/-- Fills an empty sheet with the cells that a relationship points at. -/
def sheetCells (strings : Array String) (target : Option SheetTarget) (sheet : Worksheet) :
    Except Failure Worksheet :=
  match target with
  | some (.worksheet path) => do SheetPart.read sheet strings (document (← p.require path))
  | some .cellless | none => pure sheet

/-- Adds a listed sheet to the workbook. -/
def addSheet (strings : Array String) (relationships : Relationships) (wb : Workbook)
    (entry : SheetEntry) : Except Failure Workbook := do
  let (index, wb) ← refusable (wb.addNamed entry.name)
  let target := relationships.target? entry.relation
  let sheet ← p.sheetCells document strings target (.empty entry.name)
  return wb.setSheet index sheet

/-- The workbook of the package, where parts hold the documents that `document` says. An active
sheet that does not exist leaves the first one active. -/
def workbookBy : Except Failure Workbook := do
  if (p.part? contentTypesPart).isNone then throw .noContentTypes
  let strings ← p.sharedStrings document
  let contents ← Contents.ofDocument (document (← p.require contentsPart))
  let relationships ← Relationships.ofDocument (document (← p.require relationshipsPart))
  let wb ← contents.sheets.foldlM (p.addSheet document strings relationships) .empty
  let wb ← if wb.sheetCount = 0 then (·.2) <$> refusable wb.add else pure wb
  return (wb.setActive contents.activeTab).toOption.getD wb

end

/-- The workbook of the package. -/
def workbook (p : Package) : Except Failure Workbook := p.workbookBy Part.document

end Precedents.Package
