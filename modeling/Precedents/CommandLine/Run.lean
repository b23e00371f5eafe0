import Precedents.CommandLine.Arguments
import Precedents.Graph.Dot
import Precedents.Opening

/-!
# Running the command line

What the program does for its arguments, told apart from how files are reached: `Store` stands for
the files, which may be those of a machine or a folder that is held in a value.
-/

namespace Precedents.CommandLine

/-- How files are reached. -/
structure Store (m : Type → Type) where
  /-- What is under a path. -/
  look : String → m (Option File)
  /-- Writes a text under a path and tells whether that could be done. -/
  write : String → String → m Bool

/-- How a run ends: its exit code, what it prints, and what it complains about. -/
structure Report where
  code : Nat
  output : String
  complaint : Option String
  deriving DecidableEq

/-- The name and the version of the program. -/
def versionLine : String := "cellgraph 0.1.0\n"

/-- How the program is used. -/
def helpText : String :=
  "Print the cell dependency graph of a spreadsheet as Graphviz DOT\n\n" ++
  "Usage: cellgraph [OPTIONS] <WORKBOOK>\n\n" ++
  "Options:\n" ++
  "      --active-sheet         Only formulas on the active sheet become sources\n" ++
  "      --max-range-cells <N>  Skip ranges covering more than N cells\n" ++
  "  -o, --output <FILE>        Output DOT file (default: stdout)\n" ++
  "  -v, --verbose...           Raise the log level\n" ++
  "  -h, --help                 Print help\n" ++
  "  -V, --version              Print version\n"

/-- The exit code for arguments that make no sense. -/
def misuseCode : Nat := 2

/-- The exit code for a file that cannot be read or written. -/
def failureCode : Nat := 1

/-- A run that succeeds and prints something. -/
def Report.printing (output : String) : Report := ⟨0, output, none⟩

/-- A run that fails at a file. -/
def Report.failing (action path : String) : Report :=
  ⟨failureCode, "", some s!"Error: Failed to {action} '{path}'"⟩

/-- Prints the graph of a workbook, or writes it to a file. -/
def invoke {m : Type → Type} [Monad m] (store : Store m) (i : Invocation) : m Report := do
  match ← openWorkbook store.look i.workbook with
  | .error _ => return .failing "open" i.workbook
  | .ok wb =>
    let text := (wb.graph i.options).toDot ++ "\n"
    match i.output with
    | none => return .printing text
    | some path =>
      if ← store.write path text then return .printing ""
      else return .failing "write" path

/-- Runs the program. -/
def run {m : Type → Type} [Monad m] (store : Store m) (arguments : List String) : m Report := do
  match Request.ofArguments arguments with
  | .run i => invoke store i
  | .version => return .printing versionLine
  | .help => return .printing helpText
  | .misuse => return ⟨misuseCode, "", none⟩

end Precedents.CommandLine
