import Precedents.CommandLine.Run

/-!
# Program

The command line on the files of the machine: the thin layer that reads, writes, prints and sets the
exit code.
-/

namespace Precedents.CommandLine

/-- The files of the machine. What cannot be read counts as not there. -/
def machine : Store IO where
  look path := do
    try return some (.data (← IO.FS.readBinFile path))
    catch _ => return none
  write path content := do
    try
      IO.FS.writeFile path content
      return true
    catch _ => return false

end Precedents.CommandLine

open Precedents.CommandLine in
/-- Runs the program with the arguments of the command line. -/
def main (arguments : List String) : IO UInt32 := do
  let report ← run machine arguments
  IO.print report.output
  if let some complaint := report.complaint then IO.eprintln complaint
  return report.code.toUInt32
