import Precedents.Graph.Extraction
import Precedents.Text.Count

/-!
# Arguments

What the arguments of the command line ask for. Options may stand before and after the workbook, and
two dashes end them. The value of an option is attached to it or is the next argument, unless that
looks like an option itself. Arguments are taken one after another: the first that is wrong, or that
asks for the version or for help, decides.
-/

namespace Precedents.CommandLine

/-- A run of the program: the workbook, how its graph is built, and the file it is written to. -/
structure Invocation where
  workbook : String
  options : GraphOptions
  output : Option String
  deriving DecidableEq

/-- What the arguments ask for. -/
inductive Request where
  | run (invocation : Invocation)
  | version
  | help
  /-- Arguments that make no sense. -/
  | misuse
  deriving DecidableEq

/-- The arguments taken so far. -/
structure Taken where
  workbook : Option String
  activeSheet : Bool
  maxRangeCells : Option Nat
  output : Option String
  deriving DecidableEq

/-- Before the first argument. -/
def Taken.nothing : Taken := ⟨none, false, none, none⟩

/-- The request of the arguments once all are taken. -/
def Taken.request (t : Taken) : Request :=
  match t.workbook with
  | none => .misuse
  | some workbook => .run {
      workbook
      options := ⟨if t.activeSheet then .activeSheet else .allSheets, t.maxRangeCells⟩
      output := t.output }

/-- Options that take a value. -/
inductive ValueOption where
  | maxRangeCells
  | output
  deriving DecidableEq

/-- Options that take none. -/
inductive Switch where
  | activeSheet
  | verbose
  | version
  | help
  deriving DecidableEq

/-- Takes the workbook, of which there is one. -/
def Taken.withWorkbook (t : Taken) (path : String) : Option Taken :=
  if path = "" ∨ t.workbook.isSome then none else some { t with workbook := some path }

/-- Takes an option with its value. No option is given twice. -/
def Taken.withValue (t : Taken) (option : ValueOption) (value : String) : Option Taken :=
  match option with
  | .maxRangeCells =>
    if t.maxRangeCells.isSome then none
    else (Text.countBelow? Text.limit64 value).map fun n => { t with maxRangeCells := some n }
  | .output =>
    if value = "" ∨ t.output.isSome then none else some { t with output := some value }

/-- Takes an option without a value, which may be an answer by itself. How much is told about a run
may be raised any number of times. -/
def Taken.withSwitch (t : Taken) : Switch → Except Request Taken
  | .activeSheet => if t.activeSheet then throw .misuse else pure { t with activeSheet := true }
  | .verbose => pure t
  | .version => throw .version
  | .help => throw .help

/-- The option with a long name. -/
def longOption? : String → Option (ValueOption ⊕ Switch)
  | "max-range-cells" => some (.inl .maxRangeCells)
  | "output" => some (.inl .output)
  | "active-sheet" => some (.inr .activeSheet)
  | "verbose" => some (.inr .verbose)
  | "version" => some (.inr .version)
  | "help" => some (.inr .help)
  | _ => none

/-- The option with a short name. -/
def shortOption? : Char → Option (ValueOption ⊕ Switch)
  | 'o' => some (.inl .output)
  | 'v' => some (.inr .verbose)
  | 'V' => some (.inr .version)
  | 'h' => some (.inr .help)
  | _ => none

/-- What an argument does: it is complete, or its option waits for a value. -/
inductive Outcome where
  | taken (t : Taken)
  | awaits (t : Taken) (option : ValueOption)
  | answer (r : Request)

/-- Takes what may have been taken, and nothing else. -/
def Outcome.ofTaken? : Option Taken → Outcome
  | some t => .taken t
  | none => .answer .misuse

/-- Takes a long option; the text begins after its dashes. -/
def Taken.long (t : Taken) (text : List Char) : Outcome :=
  let name := String.ofList (text.takeWhile (· != '='))
  let value := (text.dropWhile (· != '=')).tail? |>.map String.ofList
  match longOption? name, value with
  | some (.inl option), some value => .ofTaken? (t.withValue option value)
  | some (.inl option), none => .awaits t option
  | some (.inr s), none => match t.withSwitch s with
    | .ok t => .taken t
    | .error r => .answer r
  | _, _ => .answer .misuse

/-- The value that is attached to a short option, with or without an equals sign. -/
def attached : List Char → List Char
  | '=' :: value => value
  | value => value

/-- Takes short options that stand together; the text begins after their dash. -/
def Taken.short (t : Taken) : List Char → Outcome
  | [] => .taken t
  | c :: cs => match shortOption? c with
    | some (.inl option) =>
      if cs.isEmpty then .awaits t option
      else .ofTaken? (t.withValue option (String.ofList (attached cs)))
    | some (.inr s) => match t.withSwitch s with
      | .ok t => t.short cs
      | .error r => .answer r
    | none => .answer .misuse

/-- Whether an argument looks like an option. A dash alone does not. -/
def looksLikeOption (argument : String) : Bool :=
  match argument.toList with
  | '-' :: _ :: _ => true
  | _ => false

/-- Takes an argument that begins before the two dashes. -/
def Taken.argument (t : Taken) (argument : String) : Outcome :=
  match argument.toList with
  | '-' :: '-' :: text => t.long text
  | '-' :: c :: cs => t.short (c :: cs)
  | _ => .ofTaken? (t.withWorkbook argument)

/-- The request of the arguments after those taken, of which an option may wait for a value. -/
def requestFrom (t : Taken) (awaiting : Option ValueOption) : List String → Request
  | [] => if awaiting.isSome then .misuse else t.request
  | argument :: rest => match awaiting with
    | some option =>
      if looksLikeOption argument then .misuse
      else match t.withValue option argument with
        | some t => requestFrom t none rest
        | none => .misuse
    | none =>
      if argument = "--" then
        match rest.foldlM Taken.withWorkbook t with
        | some t => t.request
        | none => .misuse
      else match t.argument argument with
        | .taken t => requestFrom t none rest
        | .awaits t option => requestFrom t (some option) rest
        | .answer r => r

/-- What the arguments ask for. -/
def Request.ofArguments (arguments : List String) : Request := requestFrom .nothing none arguments

end Precedents.CommandLine
