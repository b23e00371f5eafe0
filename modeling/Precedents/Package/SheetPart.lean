import Std.Data.HashMap.Basic
import Precedents.Formula.Translation
import Precedents.Number.Decimal
import Precedents.Package
import Precedents.Worksheet

/-!
# Sheet parts

How the cells of a sheet are written in a package. A cell has an address, a type, and a value or a
formula. A formula that several cells share is written once, at its master; the others refer to it
by an index and read as it does, moved by their distance from it. The reader follows the events of
the document, collects what lies between the tags of a cell, and stores the cell at its end.
-/

namespace Precedents

/-- What has been collected of a cell. -/
structure PendingCell where
  reference : Option String
  type : Option String
  value : Option String
  formula : Option String
  sharedIndex : Option Nat
  deriving DecidableEq

/-- A cell of which nothing is known. -/
def PendingCell.none : PendingCell := ⟨.none, .none, .none, .none, .none⟩

/-- A shared formula and the cell it was written for. -/
structure Master where
  anchor : Address
  source : String
  deriving DecidableEq

/-- The shared formulas met so far, by index. -/
abbrev Masters := Std.HashMap Nat Master

/-- What is written as the formula of a cell. -/
inductive FormulaSlot where
  | absent
  | source (text : String)
  /-- A reference to a shared formula that has not been met. -/
  | orphan
  deriving DecidableEq

/-- The formula of a master as it reads at a cell. One that cannot be translated stays as it is. -/
def Master.sourceAt (m : Master) (a : Address) : String :=
  let rows := (a.row : Int) - m.anchor.row
  let cols := (a.col : Int) - m.anchor.col
  match Formula.translate m.source rows cols with
  | .ok source => source
  | .error _ => m.source

/-- What the formula of a cell amounts to, and the shared formulas after it. -/
def PendingCell.slot (cell : PendingCell) (masters : Masters) (a : Address) :
    FormulaSlot × Masters :=
  match cell.formula, cell.sharedIndex with
  | .none, _ => (.absent, masters)
  | some source, .none => (if source = "" then .absent else .source source, masters)
  | some source, some index =>
    if source = "" then
      match masters[index]? with
      | some m => (.source (m.sourceAt a), masters)
      | .none => (.orphan, masters)
    else (.source source, masters.insert index ⟨a, source⟩)

/-- The formula of a text, which is given its equals sign if it has none. -/
def Cell.ofSource (source : String) : Cell :=
  .formula (if source.toList.head? = some '=' then source else "=" ++ source)

/-- The truth value that a text stands for. -/
def truth (text : String) : Bool := text = "1" || text.toList.map Char.toLower = "true".toList

/-- The cell of a value and its type. Values of unknown types are texts. -/
def Cell.ofValue (strings : Array String) (type value : Option String) : Except Failure Cell :=
  match value with
  | none => pure .blank
  | some value => match type with
    | some "s" => match Text.countBelow? Text.limit64 value with
      | none => throw (.badStringIndex value)
      | some index => match strings[index]? with
        | some shared => pure (.text shared)
        | none => throw (.stringIndexBeyond index)
    | some "b" => pure (.boolean (truth value))
    | some "e" => pure (.error value)
    | none | some "n" => match Number.bits? value with
      | some bits => pure (.number bits)
      | none => pure (.text value)
    | some _ => pure (.text value)

/-- The content of a cell, and the shared formulas after it. -/
def PendingCell.content (cell : PendingCell) (strings : Array String) (masters : Masters)
    (a : Address) : Except Failure (Cell × Masters) :=
  match cell.slot masters a with
  | (.source text, masters) => pure (.ofSource text, masters)
  | (.orphan, masters) => pure (.blank, masters)
  | (.absent, masters) => return (← Cell.ofValue strings cell.type cell.value, masters)

/-- Which elements are open around the reader. -/
structure OpenElements where
  cell : Bool
  value : Bool
  formula : Bool
  inline : Bool
  inlineText : Bool
  deriving DecidableEq

/-- No element is open. -/
def OpenElements.none : OpenElements := ⟨false, false, false, false, false⟩

namespace SheetPart

/-- Where the reader of a sheet stands. -/
structure State where
  sheet : Worksheet
  masters : Masters
  pending : PendingCell
  opened : OpenElements

/-- Before the first event of a sheet. -/
def State.start (sheet : Worksheet) : State := ⟨sheet, ∅, .none, .none⟩

/-- A cell with what its tag tells. -/
def cellOfTag (tag : Markup.Tag) : PendingCell :=
  { PendingCell.none with reference := tag.value? "r", type := tag.value? "t" }

/-- Whether the tag of a formula marks it as shared. -/
def isShared (tag : Markup.Tag) : Bool :=
  match tag.attribute? "t" with
  | some a => a.raw == Markup.ascii "shared"
  | none => false

/-- Adds what the tag of a formula tells to the cell around it. -/
def withFormulaTag (cell : PendingCell) (tag : Markup.Tag) : PendingCell :=
  { cell with
    formula := some (cell.formula.getD "")
    sharedIndex :=
      if isShared tag then (tag.value? "si").bind (Text.countBelow? Text.limit32)
      else cell.sharedIndex }

/-- The state after the start of an element. -/
def State.opening (s : State) (tag : Markup.Tag) : State :=
  if tag.isNamed "c" then
    { s with pending := cellOfTag tag, opened := { s.opened with cell := true } }
  else if tag.isNamed "v" && s.opened.cell then
    { s with opened := { s.opened with value := true } }
  else if tag.isNamed "f" && s.opened.cell then
    { s with
      pending := withFormulaTag s.pending tag
      opened := { s.opened with formula := true } }
  else if tag.isNamed "is" && s.opened.cell then
    { s with opened := { s.opened with inline := true } }
  else if tag.isNamed "t" && s.opened.inline then
    { s with
      pending := { s.pending with type := some "inlineStr" }
      opened := { s.opened with inlineText := true } }
  else s

/-- Stores the cell that has been collected. A cell without an address is passed over. -/
def State.store (s : State) (strings : Array String) : Except Failure State :=
  match s.pending.reference with
  | none => pure { s with pending := .none }
  | some reference => match Address.parse reference with
    | .error why => throw (.badCellReference reference why)
    | .ok a => do
      let (content, masters) ← s.pending.content strings s.masters a
      match s.sheet.setAt ⟨a.row, a.col⟩ content with
      | .error why => throw (.refused why)
      | .ok sheet => return { s with sheet, masters, pending := .none }

/-- The state after the end of an element. -/
def State.closing (s : State) (strings : Array String) (name : List UInt8) :
    Except Failure State :=
  let name := Markup.localName name
  if name = Markup.ascii "c" then do
    let s ← s.store strings
    return { s with opened := { s.opened with cell := false } }
  else if name = Markup.ascii "v" then pure { s with opened := { s.opened with value := false } }
  else if name = Markup.ascii "f" then pure { s with opened := { s.opened with formula := false } }
  else if name = Markup.ascii "is" then pure { s with opened := { s.opened with inline := false } }
  else if name = Markup.ascii "t" then
    pure { s with opened := { s.opened with inlineText := false } }
  else pure s

/-- The state after character data, which belongs to the formula if one is open and to the value
otherwise. -/
def State.text (s : State) (content : Option String) : Except Failure State :=
  if s.opened.value || s.opened.inlineText || s.opened.formula then
    match content with
    | none => throw .badMarkup
    | some text =>
      let pending :=
        if s.opened.formula then
          { s.pending with formula := some (s.pending.formula.getD "" ++ text) }
        else { s.pending with value := some (s.pending.value.getD "" ++ text) }
      pure { s with pending }
  else pure s

/-- The state after an event. -/
def State.event (strings : Array String) (s : State) : Markup.Event → Except Failure State
  | .opening tag => pure (s.opening tag)
  | .empty tag =>
    pure (if s.opened.cell && tag.isNamed "f" then
      { s with pending := withFormulaTag s.pending tag } else s)
  | .closing name => s.closing strings name
  | .text content => s.text content
  | .other => pure s

/-- The sheet with the cells of a document. -/
def read (sheet : Worksheet) (strings : Array String) (d : Markup.Document) :
    Except Failure Worksheet :=
  return (← d.follow (State.event strings) (.start sheet)).sheet

end SheetPart

end Precedents
