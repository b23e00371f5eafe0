import Precedents.Package

/-!
# Shared strings

The texts that cells share, addressed by their place in one list. An item holds runs of text, which
are joined, and phonetic runs, which repeat the text in another script and are left out.
-/

namespace Precedents.SharedStrings

/-- Where the reader of the list stands: the texts so far, the text of the item it is in, and which
elements are open around it. -/
structure State where
  strings : Array String
  current : String
  inItem : Bool
  inText : Bool
  inPhonetic : Bool
  deriving DecidableEq

/-- Before the list. -/
def State.start : State := ⟨#[], "", false, false, false⟩

/-- The state after the start of an element. -/
def State.opening (s : State) (tag : Markup.Tag) : State :=
  if tag.isNamed "si" then { s with inItem := true, current := "" }
  else if tag.isNamed "rPh" then { s with inPhonetic := true }
  else if tag.isNamed "t" && s.inItem && !s.inPhonetic then { s with inText := true }
  else s

/-- The state after the end of an element. The end of an item adds its text to the list. -/
def State.closing (s : State) (name : List UInt8) : State :=
  let name := Markup.localName name
  if name = Markup.ascii "si" then
    { s with strings := s.strings.push s.current, current := "", inItem := false }
  else if name = Markup.ascii "rPh" then { s with inPhonetic := false }
  else if name = Markup.ascii "t" then { s with inText := false }
  else s

/-- The state after an event. -/
def State.event (s : State) : Markup.Event → Except Failure State
  | .opening tag => pure (s.opening tag)
  | .empty tag =>
    pure (if tag.isNamed "si" then { s with strings := s.strings.push "" } else s)
  | .closing name => pure (s.closing name)
  | .text content =>
    if s.inText then
      match content with
      | some text => pure { s with current := s.current ++ text }
      | none => throw .badMarkup
    else pure s
  | .other => pure s

/-- The texts of a document. -/
def ofDocument (d : Markup.Document) : Except Failure (Array String) :=
  return (← d.follow State.event .start).strings

end Precedents.SharedStrings
