import Precedents.Text.Lowercase

/-!
# Paths

Paths are names separated by slashes. A dot among them stands for the folder it is in, and two dots
for the folder around it. What kind of file a path names is told by the extension of its last name:
what follows the last dot, if something stands before that dot.
-/

namespace Precedents.Path

/-- What stands between the slashes of a path. -/
def steps (path : String) : List String :=
  (path.toList.splitOn '/').map String.ofList

/-- The last name of a path. Slashes and single dots after it do not count; there is none if it is a
step to the folder around. -/
def lastName? (path : String) : Option String :=
  match ((steps path).filter fun step => step ≠ "" && step ≠ ".").getLast? with
  | some name => if name = ".." then none else some name
  | none => none

/-- The extension of a name. -/
def nameExtension? (name : String) : Option String :=
  let reversed := name.toList.reverse
  match reversed.dropWhile (· != '.') with
  | _ :: _ :: _ => some (String.ofList (reversed.takeWhile (· != '.')).reverse)
  | _ => none

/-- The extension of a path. -/
def extension? (path : String) : Option String := (lastName? path).bind nameExtension?

/-- The extensions of files that can be read. -/
def readableExtensions : List String := ["xlsx", "xlsm"]

/-- Whether a path names a file that can be read; case does not matter. -/
def isReadable (path : String) : Bool :=
  match extension? path with
  | some extension => readableExtensions.contains (Text.lowercase extension)
  | none => false

end Precedents.Path
