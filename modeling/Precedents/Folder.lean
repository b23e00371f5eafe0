import Precedents.Opening

/-!
# Folders

A folder with the files below it, as a run of the program sees them: which file a path leads to, and
what is there after something has been written. Paths that leave the folder lead nowhere.
-/

namespace Precedents

/-- The files below a folder, each under the names that lead to it. The folders between are those
that the files need. -/
structure Folder where
  files : List (List String × File)

namespace Folder

/-- The folder with no files. -/
def empty : Folder := ⟨[]⟩

/-- The greatest number of bytes in a name. -/
def nameLimit : Nat := 255

/-- What is under some names. -/
def at? (folder : Folder) (names : List String) : Option File :=
  match folder.files.find? (·.1 == names) with
  | some (_, file) => some file
  | none =>
    if names.isEmpty || folder.files.any (fun entry => names.isPrefixOf entry.1) then some .folder
    else none

/-- Whether there is a folder under some names. -/
def hasFolder (folder : Folder) (names : List String) : Bool :=
  match folder.at? names with
  | some .folder => true
  | _ => false

/-- One step of a path. Only from a folder does a step lead on. -/
def walk (folder : Folder) (here : List String) (step : String) : Option (List String) :=
  if !folder.hasFolder here then none
  else if step = "" ∨ step = "." then some here
  else if step = ".." then if here.isEmpty then none else some here.dropLast
  else if (folder.at? (here ++ [step])).isSome then some (here ++ [step])
  else none

/-- The names of what a path leads to. -/
def resolve (folder : Folder) (path : String) : Option (List String) :=
  if path = "" ∨ path.toList.head? = some '/' then none
  else (Path.steps path).foldlM folder.walk []

/-- What a path leads to. -/
def look (folder : Folder) (path : String) : Option File :=
  (folder.resolve path).bind folder.at?

/-- Whether a file can have this name. -/
def isName (name : String) : Bool :=
  name ≠ "" && name ≠ "." && name ≠ ".." && name.utf8ByteSize ≤ nameLimit &&
    !name.toList.contains '\x00'

/-- Puts a file under some names, in place of what was there. -/
def put (folder : Folder) (names : List String) (file : File) : Folder :=
  ⟨(names, file) :: folder.files.filter (·.1 != names)⟩

/-- Writes a text under a path: into a folder that is there, under a name that is no folder. -/
def write (folder : Folder) (path content : String) : Option Folder := do
  guard (path.toList.head? ≠ some '/')
  let steps := Path.steps path
  let name ← steps.getLast?
  let parent ← steps.dropLast.foldlM folder.walk []
  guard (folder.hasFolder parent && isName name && !folder.hasFolder (parent ++ [name]))
  return folder.put (parent ++ [name]) (.text content)

end Folder

end Precedents
