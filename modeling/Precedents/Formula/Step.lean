import Precedents.Formula.Reference
import Precedents.Text.Lowercase

/-!
# Steps

How the next piece is taken off the front of a formula. Functions, operators, literals, defined
names and table columns are passed over, so that a formula need not be understood to know what it
reads. `step` looks at the first character and hands over to the function for what begins there.
-/

namespace Precedents.Formula

/-- What can be wrong with a formula. -/
inductive Cause where
  | openString
  | strayParen
  | strayBrace
  | strayBracket
  | openParen
  | openBrace
  | openBracket
  | openSheetName
  | loneSheetName
  | emptyQualifier
  deriving DecidableEq

/-- The words for a fault. -/
def Cause.message : Cause → String
  | openString => "unterminated string"
  | strayParen => "unmatched ')'"
  | strayBrace => "unmatched '\x7d'"
  | strayBracket => "unmatched ']'"
  | openParen => "unclosed '('"
  | openBrace => "unclosed '\x7b'"
  | openBracket => "unclosed '['"
  | openSheetName => "unterminated sheet name"
  | loneSheetName => "quoted sheet name must be followed by '!'"
  | emptyQualifier => "sheet prefix without a reference"

/-- What the reader carries from one piece to the next: how many parentheses and braces are open,
and whether the last piece was a bracketed text. -/
structure Context where
  parens : Nat
  braces : Nat
  afterBracket : Bool
  deriving DecidableEq

/-- The context at the start of a formula. -/
def Context.start : Context := ⟨0, 0, false⟩

/-- The context after a piece that opens and closes nothing. -/
def Context.plain (ctx : Context) : Context := { ctx with afterBracket := false }

/-- The outcome of reading one piece: the end of the text or a fault, text passed over, or a
reference. -/
inductive Step where
  | stop (fault : Option Cause)
  | skip (rest : List Char) (next : Context)
  | found (r : Reference) (rest : List Char)

/-- Characters after which what was read before them is no address: it is part of a word, a
function, a sheet name or a table. -/
def continuesName (c : Char) : Bool := inWord c || c == '(' || c == '!' || c == '['

/-- The address that the text begins with. -/
def mention? (text : List Char) : Option (Mention × List Char) :=
  let letters := (Address.takeMark text).2
  let digits := (Address.takeMark (letters.dropWhile Char.isAlpha)).2
  let rest := digits.dropWhile Char.isDigit
  if !leadsWith Char.isAlpha letters || !leadsWith Char.isDigit digits ||
      leadsWith continuesName rest then none
  else match Address.parse (String.ofList (upTo text rest)) with
    | .ok address => some (⟨upTo text rest, address⟩, rest)
    | .error _ => none

/-- The text after a qualifier that names the sheet `name` again, in any case. -/
def afterSameQualifier (name : String) (text : List Char) : Option (List Char) :=
  let named := match text with
    | [] => none
    | '\'' :: cs => quotedName cs
    | c :: cs =>
      if startsWord c then some (c :: cs.takeWhile inWord, cs.dropWhile inWord) else none
  match named with
  | some (again, '!' :: rest) =>
    if Text.lowercase (String.ofList again) = Text.lowercase name then some rest else none
  | _ => none

/-- The second corner of an area on the sheet `name`, or on no sheet in particular. -/
def corner? (name : Option String) : List Char → Option (Corner × List Char)
  | ':' :: cs => match mention? cs with
    | some (m, rest) => some (⟨[':'], m⟩, rest)
    | none => do
      let again ← afterSameQualifier (← name) cs
      let (m, rest) ← mention? again
      return (⟨upTo (':' :: cs) again, m⟩, rest)
  | _ => none

/-- The area that the text begins with. -/
def area? (name : Option String) (text : List Char) : Option (Area × List Char) :=
  match mention? text with
  | none => none
  | some (m, rest) => match corner? name rest with
    | some (corner, rest) => some (⟨m, some corner⟩, rest)
    | none => some (⟨m, none⟩, rest)

/-- The sheet on which the second corner of an area may be qualified again. -/
def Qualifier.single? : Qualifier → Option String
  | sheet name => some name
  | _ => none

/-- Whole columns or rows, or a name that belongs to a sheet, and the text after them. -/
def afterNames (text : List Char) : List Char :=
  match text.dropWhile inWord with
  | ':' :: cs => if leadsWith inWord cs then cs.dropWhile inWord else ':' :: cs
  | rest => rest

/-- Reads what follows a qualifier, which begins at `text` and ends before `rest`. -/
def stepQualified (ctx : Context) (q : Qualifier) (text rest : List Char) : Step :=
  match area? q.single? rest with
  | some (area, rest') => .found ⟨some q, upTo text rest, area⟩ rest'
  | none => match rest with
    | '#' :: cs => .skip (afterErrorLiteral cs) ctx.plain
    | c :: cs => if inWord c then .skip (afterNames (c :: cs)) ctx.plain
      else .stop (some .emptyQualifier)
    | [] => .stop (some .emptyQualifier)

/-- Reads an area without a qualifier, or passes over the word before `rest`. -/
def stepUnqualified (ctx : Context) (text rest : List Char) : Step :=
  match area? none text with
  | some (area, rest') => .found ⟨none, [], area⟩ rest'
  | none => .skip rest ctx.plain

/-- The last sheet of a span whose first sheet stands before `rest`, and the text after its
exclamation mark. -/
def spanEnd? : List Char → Option (List Char × List Char)
  | ':' :: cs =>
    if leadsWith startsWord cs then
      match cs.dropWhile inWord with
      | '!' :: rest => some (cs.takeWhile inWord, rest)
      | _ => none
    else none
  | _ => none

/-- Reads a piece that begins with a word. Straight after a bracketed text the word is a sheet of
another workbook. -/
def stepWord (ctx : Context) (c : Char) (cs : List Char) : Step :=
  let word := c :: cs.takeWhile inWord
  let rest := cs.dropWhile inWord
  match rest with
  | '!' :: after =>
    let q := if ctx.afterBracket then .external else .sheet (String.ofList word)
    stepQualified ctx q (c :: cs) after
  | '(' :: _ => .skip rest ctx.plain
  | _ => match spanEnd? rest with
    | some (last, after) =>
      let q := if ctx.afterBracket then .external
        else .span (String.ofList word) (String.ofList last)
      stepQualified ctx q (c :: cs) after
    | none => stepUnqualified ctx (c :: cs) rest

/-- What a quoted name stands for: a path to another workbook, two sheets, or one. -/
def Qualifier.ofQuoted (name : List Char) : Qualifier :=
  if name.contains '[' then external
  else match name.dropWhile (· != ':') with
    | _ :: last => span (String.ofList (name.takeWhile (· != ':'))) (String.ofList last)
    | [] => sheet (String.ofList name)

/-- Reads a piece that begins with a quoted name; `cs` is the text after its apostrophe. -/
def stepQuoted (ctx : Context) (cs : List Char) : Step :=
  match quotedName cs with
  | none => .stop (some .openSheetName)
  | some (name, '!' :: rest) => stepQualified ctx (.ofQuoted name) ('\'' :: cs) rest
  | some _ => .stop (some .loneSheetName)

/-- Reads the next piece of a formula. -/
def step (ctx : Context) : List Char → Step
  | [] =>
    if 0 < ctx.parens then .stop (some .openParen)
    else if 0 < ctx.braces then .stop (some .openBrace)
    else .stop none
  | '"' :: cs => match afterString cs with
    | some rest => .skip rest ctx.plain
    | none => .stop (some .openString)
  | '#' :: cs => .skip (afterErrorLiteral cs) ctx.plain
  | '(' :: cs => .skip cs { ctx.plain with parens := ctx.parens + 1 }
  | ')' :: cs =>
    if ctx.parens = 0 then .stop (some .strayParen)
    else .skip cs { ctx.plain with parens := ctx.parens - 1 }
  | '{' :: cs => .skip cs { ctx.plain with braces := ctx.braces + 1 }
  | '}' :: cs =>
    if ctx.braces = 0 then .stop (some .strayBrace)
    else .skip cs { ctx.plain with braces := ctx.braces - 1 }
  | '[' :: cs => match afterBrackets 0 cs with
    | some rest => .skip rest { ctx with afterBracket := true }
    | none => .stop (some .openBracket)
  | ']' :: _ => .stop (some .strayBracket)
  | '\'' :: cs => stepQuoted ctx cs
  | c :: cs =>
    if inNumber c then .skip (afterNumber cs) ctx.plain
    else if startsWord c then stepWord ctx c cs
    else .skip cs ctx.plain

end Precedents.Formula
