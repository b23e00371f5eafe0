/-!
# Cells

What a cell of a sheet holds. A formula is kept as it was written, since its cached result does not
tell what it reads.
-/

namespace Precedents

/-- The content of a cell. A number is given by the bits of its IEEE double, so that negative zero
and the payload of a NaN are kept. -/
inductive Cell where
  | blank
  | number (bits : UInt64)
  | text (value : String)
  | boolean (value : Bool)
  | error (value : String)
  | formula (source : String)
  deriving DecidableEq

namespace Cell

/-- The word for the kind of content. -/
def kind : Cell → String
  | blank => "blank"
  | number _ => "numeric"
  | text _ => "text"
  | boolean _ => "boolean"
  | error _ => "error"
  | formula _ => "formula"

/-- The text of a formula. -/
def formula? : Cell → Option String
  | formula source => some source
  | _ => none

/-- Whether there is no content. -/
def isBlank : Cell → Bool
  | blank => true
  | _ => false

end Cell

end Precedents
