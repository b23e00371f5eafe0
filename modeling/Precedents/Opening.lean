import Precedents.Archive.Directory
import Precedents.Package.Reading
import Precedents.Path

/-!
# Opening a workbook

From a path to a workbook. The extension of the path decides whether the file is looked at; then the
file has to be there, to be an archive, and to hold a workbook.
-/

namespace Precedents

/-- What is found under a path. A package whose parts are at hand needs no archive around it. -/
inductive File where
  | data (bytes : ByteArray)
  | package (p : Package)
  | text (content : String)
  /-- A folder, which opens but cannot be read. -/
  | folder

/-- Why a workbook cannot be opened. -/
inductive OpenError where
  | unsupported (path : String)
  | failed (why : Failure)
  deriving DecidableEq

/-- The text of the error, where it has one of its own. -/
def OpenError.message? : OpenError → Option String
  | unsupported path => some s!"Unsupported file format: {path}"
  | failed why => why.message?

/-- The package that a file holds. -/
def File.package? : File → Option Package
  | data bytes => Archive.package? bytes
  | package p => some p
  | text content => Archive.package? content.toUTF8
  | folder => none

/-- The workbook in a file. -/
def File.workbook (file : File) : Except Failure Workbook :=
  match file.package? with
  | some p => p.workbook
  | none => throw .badArchive

/-- Opens the workbook under a path, where `look` tells what is there. -/
def openWorkbook {m : Type → Type} [Monad m] (look : String → m (Option File)) (path : String) :
    m (Except OpenError Workbook) := do
  if !Path.isReadable path then return throw (.unsupported path)
  match ← look path with
  | none => return throw (.failed .inaccessible)
  | some file => match file.workbook with
    | .ok wb => return pure wb
    | .error why => return throw (.failed why)

end Precedents
