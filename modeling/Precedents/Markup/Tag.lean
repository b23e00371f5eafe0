import Precedents.Markup.Entity

/-!
# Tags

The inside of a tag: a name and attributes. Names and values are kept as the bytes they were written
with. Attributes that are not written as they should be are left out, and the reading goes on after
them: one without a value, one whose value has no quotation marks, and one whose name has been there
before.
-/

namespace Precedents.Markup

/-- The bytes of a text of ASCII characters. -/
def ascii (s : String) : List UInt8 := s.toList.map fun c => c.toNat.toUInt8

/-- The bytes that separate names and attributes. -/
def isSpace (b : UInt8) : Bool := b == 0x20 || b == 0x09 || b == 0x0A || b == 0x0D

/-- Whether a byte is none of those that separate. -/
def isInk (b : UInt8) : Bool := !isSpace b

/-- An attribute of a tag, with the bytes between its quotation marks. -/
structure Attribute where
  key : List UInt8
  raw : List UInt8
  deriving DecidableEq

/-- A tag that opens an element. -/
structure Tag where
  name : List UInt8
  attributes : List Attribute
  deriving DecidableEq

/-- A name without its prefix, which ends at the first colon. -/
def localName (name : List UInt8) : List UInt8 :=
  match name.dropWhile (· != 0x3A) with
  | _ :: rest => rest
  | [] => name

/-- Whether a name has a prefix. -/
def hasPrefix (name : List UInt8) : Bool := name.contains 0x3A

/-- The text of the value, if it can be decoded. -/
def Attribute.value? (a : Attribute) : Option String := decode? a.raw

/-- The name of the element without its prefix. -/
def Tag.localName (tag : Tag) : List UInt8 := Markup.localName tag.name

/-- Whether the element has this name, whatever its prefix. -/
def Tag.isNamed (tag : Tag) (name : String) : Bool := tag.localName == ascii name

/-- The attribute with this whole name. -/
def Tag.attribute? (tag : Tag) (key : String) : Option Attribute :=
  tag.attributes.find? (·.key == ascii key)

/-- The value of the attribute with this whole name, if it can be decoded. -/
def Tag.value? (tag : Tag) (key : String) : Option String :=
  (tag.attribute? key).bind Attribute.value?

/-- Bytes that the name of an attribute goes on with. -/
def inKey (b : UInt8) : Bool := b != 0x3D && isInk b

/-- Dropping bytes from the front makes nothing longer. -/
theorem length_dropWhile_le (p : UInt8 → Bool) (bytes : List UInt8) :
    (bytes.dropWhile p).length ≤ bytes.length :=
  (List.dropWhile_suffix p).length_le

set_option linter.unusedVariables false in
/-- The attributes in the rest of a tag, where `seen` are the names that have been there. -/
def attributesAfter (seen : List (List UInt8)) (bytes : List UInt8) : List Attribute :=
  match h₁ : bytes.dropWhile isSpace with
  | [] => []
  | first :: rest =>
    let key := first :: rest.takeWhile inKey
    match h₂ : (rest.dropWhile inKey).dropWhile isSpace with
    | [] => []
    | equals :: after =>
      if equals != 0x3D then attributesAfter seen (equals :: after)
      else if seen.contains key then attributesAfter seen (after.dropWhile isInk)
      else match h₃ : after.dropWhile isSpace with
        | [] => []
        | quote :: value =>
          if quote == 0x22 || quote == 0x27 then
            match h₄ : value.dropWhile (· != quote) with
            | [] => []
            | _ :: next => ⟨key, value.takeWhile (· != quote)⟩ :: attributesAfter (key :: seen) next
          else attributesAfter (key :: seen) (value.dropWhile isInk)
termination_by bytes.length
decreasing_by
  all_goals
    have b₁ := h₁ ▸ length_dropWhile_le isSpace bytes
    have b₂ := h₂ ▸ length_dropWhile_le isSpace (rest.dropWhile inKey)
    have b₃ := length_dropWhile_le inKey rest
    simp only [List.length_cons] at b₁ b₂ ⊢
  · omega
  · have := length_dropWhile_le isInk after
    omega
  · have b₄ := h₃ ▸ length_dropWhile_le isSpace after
    have b₅ := h₄ ▸ length_dropWhile_le (· != quote) value
    simp only [List.length_cons] at b₄ b₅
    omega
  · have b₄ := h₃ ▸ length_dropWhile_le isSpace after
    have := length_dropWhile_le isInk value
    simp only [List.length_cons] at b₄
    omega

/-- The tag whose inside is given. -/
def Tag.ofBytes (inside : List UInt8) : Tag :=
  ⟨inside.takeWhile isInk, attributesAfter [] (inside.dropWhile isInk)⟩

end Precedents.Markup
