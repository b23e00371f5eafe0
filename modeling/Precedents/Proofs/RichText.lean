import Precedents.Proofs.SheetPart

/-!
# Rich text

The text of a shared string or of a cell is written in pieces: texts, which may stand in runs, and
phonetic runs, whose texts repeat the others in another script. `Content` says which events make up
such a text, by the elements that are open in it, and `texts` lists what stands directly in its text
elements. Here is also how the whole of these texts is related to those outside of phonetic runs
(`fullText_eq_plainText_iff`).
-/

namespace Precedents.RichText

open Markup

/-! ## The events of a text -/

/-- Where an element may start in a rich text, inside the elements that are open in it, the
innermost first. -/
structure Admits (opened : List (List UInt8)) (name : List UInt8) : Prop where
  /-- A shared string holds no other. -/
  apart : name ≠ ascii "si"
  /-- A text element holds only texts. -/
  leaf : opened.head? ≠ some (ascii "t")
  /-- Text elements stand in the rich text itself, in a run or in a phonetic run. -/
  placed : name = ascii "t" → opened = [] ∨ opened = [ascii "r"] ∨ opened = [ascii "rPh"]
  /-- A phonetic run holds no other. -/
  single : name = ascii "rPh" → opened.getLast? ≠ some (ascii "rPh")

instance (opened : List (List UInt8)) (name : List UInt8) : Decidable (Admits opened name) :=
  decidable_of_iff (name ≠ ascii "si" ∧ opened.head? ≠ some (ascii "t") ∧
      (name = ascii "t" → opened = [] ∨ opened = [ascii "r"] ∨ opened = [ascii "rPh"]) ∧
      (name = ascii "rPh" → opened.getLast? ≠ some (ascii "rPh")))
    ⟨fun h => ⟨h.1, h.2.1, h.2.2.1, h.2.2.2⟩, fun h => ⟨h.apart, h.leaf, h.placed, h.single⟩⟩

/-- The events that complete a rich text, where some elements are open in it, the innermost first.
An end tag belongs to the innermost element that is open. -/
inductive Content : List (List UInt8) → List Event → Prop where
  | nil : Content [] []
  | opening {opened tag es} :
    Admits opened tag.localName → Content (tag.localName :: opened) es →
    Content opened (.opening tag :: es)
  | closing {opened name es} :
    Content opened es → Content (localName name :: opened) (.closing name :: es)
  | empty {opened tag es} :
    tag.localName ≠ ascii "si" → Content opened es → Content opened (.empty tag :: es)
  | text {opened content es} : Content opened es → Content opened (.text content :: es)
  | other {opened es} : Content opened es → Content opened (.other :: es)

/-- The elements that are open were admitted, one inside the other. -/
inductive Standing : List (List UInt8) → Prop where
  | nil : Standing []
  | cons {opened name} : Admits opened name → Standing opened → Standing (name :: opened)

/-! ## Its texts -/

/-- The texts that stand directly in a text element, each with whether it is in a phonetic run. -/
def texts : List (List UInt8) → List Event → List (Bool × Option String)
  | _, [] => []
  | opened, .opening tag :: es => texts (tag.localName :: opened) es
  | opened, .closing _ :: es => texts opened.tail es
  | opened, .text content :: es =>
    if opened.head? = some (ascii "t") then
      (decide (ascii "rPh" ∈ opened), content) :: texts opened es
    else texts opened es
  | opened, .empty _ :: es => texts opened es
  | opened, .other :: es => texts opened es

/-- Texts one after another. -/
def joined (xs : List (Option String)) : String := String.join (xs.map (·.getD ""))

/-- The texts outside of phonetic runs. -/
def plain (xs : List (Bool × Option String)) : List (Option String) :=
  (xs.filter (!·.1)).map (·.2)

/-- The texts of phonetic runs. -/
def phonetic (xs : List (Bool × Option String)) : List (Option String) :=
  (xs.filter (·.1)).map (·.2)

/-- The text outside of phonetic runs. -/
def plainText (es : List Event) : String := joined (plain (texts [] es))

/-- The text of the phonetic runs. -/
def phoneticText (es : List Event) : String := joined (phonetic (texts [] es))

/-- The whole text, phonetic runs included. -/
def fullText (es : List Event) : String := joined ((texts [] es).map (·.2))

/-- An element and what is inside of it. -/
def element (tag : Tag) (inside : List Event) : List Event :=
  .opening tag :: (inside ++ [.closing tag.name])

/-- The tag of an element without attributes. -/
def tagNamed (name : String) : Tag := ⟨ascii name, []⟩

variable {es : List Event} {xs : List (Bool × Option String)} {x : Option String}

lemma joined_cons (x : Option String) (xs : List (Option String)) :
    joined (x :: xs) = x.getD "" ++ joined xs := String.join_cons

lemma plain_cons_false : plain ((false, x) :: xs) = x :: plain xs := rfl

lemma plain_cons_true : plain ((true, x) :: xs) = plain xs := rfl

lemma phonetic_cons_false : phonetic ((false, x) :: xs) = phonetic xs := rfl

lemma phonetic_cons_true : phonetic ((true, x) :: xs) = x :: phonetic xs := rfl

/-- The plain and the phonetic texts are together as long as all texts. -/
lemma length_joined (xs : List (Bool × Option String)) :
    (joined (xs.map (·.2))).length =
      (joined (plain xs)).length + (joined (phonetic xs)).length := by
  induction xs with
  | nil => rfl
  | cons x xs ih =>
    obtain ⟨spoken, x⟩ := x
    rw [List.map_cons, joined_cons, String.length_append, ih]
    cases spoken with
    | true =>
      rw [plain_cons_true, phonetic_cons_true, joined_cons, String.length_append]
      exact Nat.add_left_comm _ _ _
    | false =>
      rw [plain_cons_false, phonetic_cons_false, joined_cons, String.length_append]
      exact (Nat.add_assoc _ _ _).symm

/-- Where the phonetic texts are empty, all texts are the plain ones. -/
lemma joined_eq_of_phonetic (h : joined (phonetic xs) = "") :
    joined (xs.map (·.2)) = joined (plain xs) := by
  induction xs with
  | nil => rfl
  | cons x xs ih =>
    obtain ⟨spoken, x⟩ := x
    rw [List.map_cons, joined_cons]
    cases spoken with
    | true =>
      rw [phonetic_cons_true, joined_cons] at h
      obtain ⟨hx, hxs⟩ := String.append_eq_empty_iff.1 h
      rw [plain_cons_true, ih hxs]
      exact (congrArg (· ++ _) hx).trans String.empty_append
    | false => rw [plain_cons_false, joined_cons, ih h]

/-- The whole text is the text outside of phonetic runs only if these have no text. -/
theorem fullText_eq_plainText_iff : fullText es = plainText es ↔ phoneticText es = "" := by
  refine ⟨fun h => ?_, joined_eq_of_phonetic⟩
  have hlength := length_joined (texts [] es)
  have hsame : (joined ((texts [] es).map (·.2))).length = _ := congrArg String.length h
  exact String.length_eq_zero_iff.1 (Nat.left_eq_add.1 (hsame.symm.trans hlength))

end Precedents.RichText
