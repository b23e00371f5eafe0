import Precedents.Markup.Tag

/-!
# Events

What a markup document consists of, in order: elements that open and close, elements without
content, character data, and things that are only passed over, such as comments. A document also
tells whether it came to an end or broke off at something that cannot be read.
-/

namespace Precedents.Markup

/-- A thing in a document. Character data that cannot be decoded is an event without a text, because
it matters only where its text is wanted. -/
inductive Event where
  /-- The start of an element. -/
  | opening (tag : Tag)
  /-- An element without content. -/
  | empty (tag : Tag)
  /-- The end of the element with this name. -/
  | closing (name : List UInt8)
  /-- Character data. -/
  | text (content : Option String)
  /-- A comment, a processing instruction, a document type or a literal section. -/
  | other
  deriving DecidableEq

/-- The events of a document, and whether they are all there was. -/
structure Document where
  events : List Event
  complete : Bool
  deriving DecidableEq

/-- The document with an event put in front of it. -/
def Document.cons (e : Event) (d : Document) : Document := { d with events := e :: d.events }

/-- The tag of an element, with content or without. -/
def Event.tag? : Event → Option Tag
  | opening tag => some tag
  | empty tag => some tag
  | _ => none

/-- The tags of a document in order. -/
def Document.tags (d : Document) : List Tag := d.events.filterMap Event.tag?

end Precedents.Markup
