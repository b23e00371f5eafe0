import Precedents.Proofs.SharedStrings
import Precedents.Proofs.SheetCells
import Precedents.Proofs.Spelling

/-!
# Texts in cells

A cell holds its text as a rich text inside of it, or it refers to a shared string. Of a rich text
inside a cell the reader takes every text, those of phonetic runs too (`run_inline`), whereas a
shared string has only what stands outside of phonetic runs. So one rich text gives the same cell in
both ways exactly if its phonetic runs have no text (`rich_text_stored`).
-/

namespace Precedents.SheetPart

open Markup RichText

/-! ## Cells with a text -/

/-- The tag of a cell with an address and a type. -/
structure CellTag (tag : Tag) (type : String) (a : Address) : Prop where
  named : tag.localName = ascii "c"
  typed : tag.value? "t" = some type
  placed : ∃ reference, tag.value? "r" = some reference ∧ Address.parse reference = .ok a

/-- The event is not of an element that means something in a cell. -/
def Apart (e : Event) : Prop := ∀ name ∈ ["c", "v", "f", "is"], ¬ e.Touches name

instance (name : String) : (e : Event) → Decidable (e.Touches name)
  | .opening tag => inferInstanceAs (Decidable (tag.localName = ascii name))
  | .empty tag => inferInstanceAs (Decidable (tag.localName = ascii name))
  | .closing n => inferInstanceAs (Decidable (localName n = ascii name))
  | .text _ => inferInstanceAs (Decidable False)
  | .other => inferInstanceAs (Decidable False)

instance (e : Event) : Decidable (Apart e) :=
  inferInstanceAs (Decidable (∀ name ∈ ["c", "v", "f", "is"], ¬ e.Touches name))

/-- The events are a rich text for a cell, and all of its texts can be decoded. -/
structure IsBody (es : List Event) : Prop where
  content : Content [] es
  apart : ∀ e ∈ es, Apart e
  decoded : ∀ x ∈ texts [] es, x.2.isSome

/-- From one cell to the next the reader only stores this cell, whatever the sheet and the shared
formulas are. -/
def Stores (strings : Array String) (es : List Event) (a : Address) (cell : Cell) : Prop :=
  ∀ sheet masters, ∃ sheet', sheet.setAt ⟨a.row, a.col⟩ cell = .ok sheet' ∧
    (State.between sheet masters).run strings es = .ok (.between sheet' masters)

variable {strings : Array String} {sheet : Worksheet} {masters : Masters}
variable {reference type index : String} {value : Option String} {cell : Cell} {a b : Address}
variable {tag : Tag} {name : List UInt8} {opened : List (List UInt8)} {es : List Event}

/-! ## From the tag of a cell to its end -/

/-- Inside a cell without a formula: its address, its type and what there is of its value. -/
def State.valued (sheet : Worksheet) (masters : Masters) (reference type : String)
    (value : Option String) (opened : OpenElements) : State :=
  ⟨sheet, masters, ⟨some reference, some type, value, none, none⟩, opened⟩

/-- Between cells, a cell that tells its place is opened. -/
lemma opening_between (h : CellTag tag type a) (hplaced : tag.value? "r" = some reference) :
    (State.between sheet masters).opening tag =
      .valued sheet masters reference type none cellAlone := by
  have hc : tag.isNamed "c" = true := beq_iff_eq.2 h.named
  rw [State.opening, if_pos hc, cellOfTag, hplaced, h.typed]
  rfl

/-- The end of a cell stores its value as its type says. -/
lemma closing_valued (sheet : Worksheet) (masters : Masters)
    (hplaced : Address.parse reference = .ok a) (hname : localName name = ascii "c")
    (hcell : Cell.ofValue strings (some type) value = .ok cell) :
    ∃ sheet', sheet.setAt ⟨a.row, a.col⟩ cell = .ok sheet' ∧
      (State.valued sheet masters reference type value cellAlone).closing strings name =
        .ok (.between sheet' masters) := by
  have hgrid : a.InGrid := (Address.reads_ok_iff.1 (Address.ofChars_eq_iff.1 hplaced)).inGrid
  obtain ⟨sheet', hset⟩ :=
    Workbook.exists_sheet_setAt sheet (p := ⟨a.row, a.col⟩) hgrid.1 hgrid.2 cell
  have hcollected :
      (State.valued sheet masters reference type value cellAlone).collected strings =
        .ok (some (⟨a.row, a.col⟩, cell), masters) := by
    simp only [State.collected, State.valued, hplaced, PendingCell.content, PendingCell.slot, hcell]
    rfl
  refine ⟨sheet', hset, ?_⟩
  rw [closing_between hname rfl, hcollected]
  change (put sheet (some (⟨a.row, a.col⟩, cell)) >>= _) = _
  rw [put, hset]
  rfl

/-- A cell is stored with the value that is gathered inside of it. -/
lemma stores_of_run (htag : CellTag tag type a)
    (hcell : Cell.ofValue strings (some type) value = .ok cell)
    (hrun : ∀ sheet masters reference,
      (State.valued sheet masters reference type none cellAlone).run strings es =
        .ok (.valued sheet masters reference type value cellAlone)) :
    Stores strings (element tag es) a cell := by
  intro sheet masters
  obtain ⟨reference, hplaced, hparse⟩ := htag.placed
  obtain ⟨sheet', hset, hend⟩ := closing_valued sheet masters hparse htag.named hcell
  refine ⟨sheet', hset, ?_⟩
  rw [element, run_opened, opening_between htag hplaced, run_append, hrun]
  change State.run _ _ _ = _
  rw [run_closed, hend]
  rfl

/-! ## A rich text in a cell -/

/-- The value of a cell after some more texts. -/
def collect (value : Option String) (xs : List (Option String)) : Option String :=
  xs.foldl (fun value x => some (value.getD "" ++ x.getD "")) value

/-- Texts are added to the text that was there. -/
lemma collect_some (text : String) (xs : List (Option String)) :
    collect (some text) xs = some (text ++ joined xs) := by
  induction xs generalizing text with
  | nil => exact congrArg some String.append_empty.symm
  | cons x xs ih =>
    rw [joined_cons, ← String.append_assoc]
    exact ih (text ++ x.getD "")

/-- The first of the texts is there alone, and the others are added to it. -/
lemma collect_none {xs : List (Option String)} (h : xs ≠ []) :
    collect none xs = some (joined xs) := by
  cases xs with
  | nil => exact absurd rfl h
  | cons x xs =>
    rw [joined_cons]
    change collect (some ("" ++ x.getD "")) xs = _
    rw [collect_some, String.empty_append]

/-- Inside a rich text in a cell, where some elements are open in it. -/
def State.inString (sheet : Worksheet) (masters : Masters) (reference : String)
    (value : Option String) (opened : List (List UInt8)) : State :=
  .valued sheet masters reference "inlineStr" value
    { cellAlone with inline := true, inlineText := opened.head? == some (ascii "t") }

/-- An element apart from text is opened inside the string. -/
lemma opening_inString (hapart : Apart (.opening tag)) (hadmits : Admits opened tag.localName) :
    (State.inString sheet masters reference value opened).opening tag =
      .inString sheet masters reference value (tag.localName :: opened) := by
  have hc : tag.isNamed "c" = false := isNamed_eq_false (hapart "c" (by simp))
  have hv : tag.isNamed "v" = false := isNamed_eq_false (hapart "v" (by simp))
  have hf : tag.isNamed "f" = false := isNamed_eq_false (hapart "f" (by simp))
  have his : tag.isNamed "is" = false := isNamed_eq_false (hapart "is" (by simp))
  have hleaf : (opened.head? == some (ascii "t")) = false := beq_false_of_ne hadmits.leaf
  simp only [State.opening, hc, hv, hf, his, Bool.false_and, Bool.false_eq_true, if_false]
  simp only [State.inString, State.valued, hleaf, List.head?_cons]
  by_cases ht : tag.localName = ascii "t"
  · have hnamed : tag.isNamed "t" = true := beq_iff_eq.2 ht
    rw [hnamed, ht]
    rfl
  · have hnamed : tag.isNamed "t" = false := isNamed_eq_false ht
    have hne : (some tag.localName == some (ascii "t")) = false :=
      beq_false_of_ne fun he => ht (Option.some.inj he)
    rw [hnamed, hne]
    rfl

/-- An element that was opened inside the string is closed. -/
lemma closing_inString (hapart : Apart (.closing name)) (hadmits : Admits opened (localName name)) :
    (State.inString sheet masters reference value (localName name :: opened)).closing strings name =
      .ok (.inString sheet masters reference value opened) := by
  have hc : localName name ≠ ascii "c" := hapart "c" (by simp)
  have hv : localName name ≠ ascii "v" := hapart "v" (by simp)
  have hf : localName name ≠ ascii "f" := hapart "f" (by simp)
  have his : localName name ≠ ascii "is" := hapart "is" (by simp)
  have hleaf : (opened.head? == some (ascii "t")) = false := beq_false_of_ne hadmits.leaf
  simp only [State.closing, if_neg hc, if_neg hv, if_neg hf, if_neg his]
  simp only [State.inString, State.valued, hleaf, List.head?_cons]
  by_cases ht : localName name = ascii "t"
  · rw [if_pos ht]
    rfl
  · have hne : (some (localName name) == some (ascii "t")) = false :=
      beq_false_of_ne fun he => ht (Option.some.inj he)
    rw [if_neg ht, hne]
    rfl

/-- Of a rich text the reader of a cell takes all texts. -/
lemma run_inline (h : Content opened es) (hstanding : Standing opened) (hapart : ∀ e ∈ es, Apart e)
    (hdecoded : ∀ x ∈ texts opened es, x.2.isSome) :
    (State.inString sheet masters reference value opened).run strings es =
      .ok (.inString sheet masters reference
        (collect value ((texts opened es).map (·.2))) []) := by
  -- On the content, with what has been collected so far as the value.
  induction h generalizing value with
  | nil => rfl
  | opening ha _ ih =>
    obtain ⟨he, hes⟩ := List.forall_mem_cons.1 hapart
    rw [run_opened, opening_inString he ha]
    exact ih (.cons ha hstanding) hes hdecoded
  | closing _ ih =>
    obtain ⟨he, hes⟩ := List.forall_mem_cons.1 hapart
    cases hstanding with
    | cons ha hstanding =>
      rw [run_closed, closing_inString he ha]
      exact ih hstanding hes hdecoded
  | @empty opened tag es _ _ ih =>
    obtain ⟨he, hes⟩ := List.forall_mem_cons.1 hapart
    have hf : tag.isNamed "f" = false := isNamed_eq_false (he "f" (by simp))
    rw [run_cons]
    simp only [State.event, hf, Bool.and_false, Bool.false_eq_true, if_false]
    exact ih hstanding hes hdecoded
  | @text opened content es _ ih =>
    obtain ⟨-, hes⟩ := List.forall_mem_cons.1 hapart
    rw [texts] at hdecoded ⊢
    rw [run_cons]
    -- Texts count where the innermost open element is a text element.
    split at hdecoded
    case isTrue hhead =>
      obtain ⟨hsome, hrest⟩ := List.forall_mem_cons.1 hdecoded
      obtain ⟨x, rfl⟩ := Option.isSome_iff_exists.1 hsome
      have hopen : (opened.head? == some (ascii "t")) = true := beq_iff_eq.2 hhead
      have htext : (State.inString sheet masters reference value opened).event strings
          (.text (some x)) =
            .ok (.inString sheet masters reference (some (value.getD "" ++ x)) opened) := by
        simp only [State.event, State.text, State.inString, State.valued, hopen]
        rfl
      rw [htext, if_pos hhead]
      exact ih hstanding hes hrest
    case isFalse hhead =>
      have hidle : (opened.head? == some (ascii "t")) = false := beq_false_of_ne hhead
      have htext : (State.inString sheet masters reference value opened).event strings
          (.text content) = .ok (.inString sheet masters reference value opened) := by
        simp only [State.event, State.text, State.inString, State.valued, hidle]
        rfl
      rw [htext, if_neg hhead]
      exact ih hstanding hes hdecoded
  | other _ ih => exact ih hstanding (List.forall_mem_cons.1 hapart).2 hdecoded

/-- A cell with a rich text in it gets the whole text. -/
lemma stores_inline {inline : Tag} (htag : CellTag tag "inlineStr" a)
    (hinline : inline.localName = ascii "is") (hbody : IsBody es) (hne : texts [] es ≠ []) :
    Stores strings (element tag (element inline es)) a (.text (fullText es)) := by
  have hcell : Cell.ofValue strings (some "inlineStr") (some (fullText es)) =
      .ok (.text (fullText es)) := rfl
  refine stores_of_run htag hcell fun sheet masters reference => ?_
  have hvalue : collect none ((texts [] es).map (·.2)) = some (fullText es) :=
    collect_none (mt List.map_eq_nil_iff.1 hne)
  have hopening : (State.valued sheet masters reference "inlineStr" none cellAlone).opening inline =
      .inString sheet masters reference none [] := by
    simp only [State.opening, Tag.isNamed, hinline]
    rfl
  rw [element, run_opened, hopening, run_append,
    run_inline hbody.content .nil hbody.apart hbody.decoded, hvalue]
  change State.closing _ _ _ >>= _ = _
  have hname : localName inline.name = ascii "is" := hinline
  rw [State.closing, hname]
  rfl

/-! ## The same text as a shared string -/

/-- A cell with the index of a shared string gets that string. -/
lemma stores_index {value : Tag} {i : Nat} {text : String} (htag : CellTag tag "s" a)
    (hvalue : value.localName = ascii "v")
    (hindex : Text.countBelow? Text.limit64 index = some i) (hitem : strings[i]? = some text) :
    Stores strings (element tag (element value [.text (some index)])) a (.text text) := by
  have hcell : Cell.ofValue strings (some "s") (some index) = .ok (.text text) := by
    simp only [Cell.ofValue, hindex, hitem]
    rfl
  refine stores_of_run htag hcell fun sheet masters reference => ?_
  have hopening : (State.valued sheet masters reference "s" none cellAlone).opening value =
      .valued sheet masters reference "s" none { cellAlone with value := true } := by
    simp only [State.opening, Tag.isNamed, hvalue]
    rfl
  have htext : (State.valued sheet masters reference "s" none
      { cellAlone with value := true }).event strings (.text (some index)) =
        .ok (.valued sheet masters reference "s" (some index)
          { cellAlone with value := true }) := by
    change Except.ok (State.valued _ _ _ _ (some ("" ++ index)) _) = _
    rw [String.empty_append]
    rfl
  rw [element, run_opened, hopening, List.cons_append, List.nil_append, run_cons, htext]
  change State.closing _ _ _ >>= _ = _
  have hname : localName value.name = ascii "v" := hvalue
  rw [State.closing, hname]
  rfl

/-- A rich text with a text outside of phonetic runs is read as a text cell both ways, and nothing
else happens: as the whole text where it stands in the cell, and as the text outside of phonetic
runs where the cell has the index of a shared string with this inside. The two are the same exactly
if the phonetic runs have no text. -/
theorem rich_text_stored {d : Document} {items : List (List Event)} {body : List Event}
    {tag' inline value : Tag} {i : Nat} (hbody : IsBody body) (hplain : plainText body ≠ "")
    (htag : CellTag tag "inlineStr" a) (hinline : inline.localName = ascii "is")
    (hlists : SharedStrings.Lists [] d.events items)
    (hstrings : SharedStrings.ofDocument d = .ok strings) (hitem : items[i]? = some body)
    (htag' : CellTag tag' "s" b) (hvalue : value.localName = ascii "v")
    (hindex : Text.countBelow? Text.limit64 index = some i) :
    Stores strings (element tag (element inline body)) a (.text (fullText body)) ∧
      Stores strings (element tag' (element value [.text (some index)])) b
        (.text (plainText body)) ∧
      (fullText body = plainText body ↔ phoneticText body = "") := by
  have hne : texts [] body ≠ [] := by
    intro hnil
    apply hplain
    rw [plainText, hnil]
    rfl
  obtain ⟨t, hrun, rfl⟩ := SharedStrings.run_of_ofDocument hstrings
  obtain ⟨hlist, -⟩ := SharedStrings.run_lists hlists .start hrun
  have hshared : t.strings[i]? = some (plainText body) := by
    rw [← Array.getElem?_toList, hlist]
    change (items.map plainText)[i]? = _
    rw [List.getElem?_map, hitem]
    rfl
  exact ⟨stores_inline htag hinline hbody hne, stores_index htag' hvalue hindex hshared,
    fullText_eq_plainText_iff⟩

/-- A text with a phonetic run. -/
def glossed : List Event :=
  element (tagNamed "r") (element (tagNamed "t") [.text (some "A")]) ++
    element (tagNamed "rPh") (element (tagNamed "t") [.text (some "B")])

/-- A part with that text as its only shared string. -/
def glossedPart : List Event := element (tagNamed "sst") (element (tagNamed "si") glossed)

/-- The tag of a cell, as it is written. -/
def cellTag (type address : String) : Tag :=
  ⟨ascii "c", [⟨ascii "r", ascii address⟩, ⟨ascii "t", ascii type⟩]⟩

/-- A cell that has the text in it, and one that refers to it. -/
def glossedCells : List Event :=
  element (cellTag "inlineStr" "A1") (element (tagNamed "is") glossed) ++
    element (cellTag "s" "B1") (element (tagNamed "v") [.text (some "0")])

lemma isBody_glossed : IsBody glossed where
  content := .opening (by decide) (.opening (by decide) (.text (.closing (.closing
    (.opening (by decide) (.opening (by decide) (.text (.closing (.closing .nil)))))))))
  apart := by decide
  decoded := by decide

lemma lists_glossed : SharedStrings.Lists [] glossedPart [glossed] :=
  .opening (by decide) (.item (by decide) (by decide) isBody_glossed.content (by decide)
    (.closing (by decide) .nil))

/-- The text of the phonetic run is in the cell that has it inside, not in the one that refers to
it. -/
theorem rich_text_stored_glossed :
    plainText glossed ≠ "" ∧ phoneticText glossed ≠ "" ∧
    ∃ strings, SharedStrings.ofDocument ⟨glossedPart, true⟩ = .ok strings ∧
      Stores strings (element (cellTag "inlineStr" "A1") (element (tagNamed "is") glossed))
        (.relative 0 0) (.text "AB") ∧
      Stores strings (element (cellTag "s" "B1") (element (tagNamed "v") [.text (some "0")]))
        (.relative 0 1) (.text "A") := by
  have hstrings : SharedStrings.ofDocument ⟨glossedPart, true⟩ = .ok #["A"] := by decide +kernel
  have hinline : CellTag (cellTag "inlineStr" "A1") "inlineStr" (.relative 0 0) :=
    ⟨by decide, by decide +kernel, "A1", by decide +kernel, by decide +kernel⟩
  have hindex : CellTag (cellTag "s" "B1") "s" (.relative 0 1) :=
    ⟨by decide, by decide +kernel, "B1", by decide +kernel, by decide +kernel⟩
  have his : (tagNamed "is").localName = ascii "is" := by decide
  have hvalue : (tagNamed "v").localName = ascii "v" := by decide
  have hfirst : Text.countBelow? Text.limit64 "0" = some 0 := by decide +kernel
  obtain ⟨hwhole, hshared, -⟩ := rich_text_stored isBody_glossed (by decide +kernel) hinline his
    lists_glossed hstrings rfl hindex hvalue hfirst
  exact ⟨by decide +kernel, by decide +kernel, _, hstrings, hwhole, hshared⟩

/-- A phonetic run is left out of a shared string, but not of the same text in a cell. -/
theorem phonetic_run_in_cell :
    IsBody glossed ∧ plainText glossed ≠ "" ∧
    SharedStrings.Lists [] glossedPart [glossed] ∧
    SharedStrings.ofDocument ⟨glossedPart, true⟩ = .ok #["A"] ∧
    (read (.empty "S") #["A"] ⟨glossedCells, true⟩).map (·.toList) =
      .ok [(⟨0, 0⟩, .text "AB"), (⟨0, 1⟩, .text "A")] :=
  ⟨isBody_glossed, by decide +kernel, lists_glossed, by decide +kernel, by decide +kernel⟩

end Precedents.SheetPart
