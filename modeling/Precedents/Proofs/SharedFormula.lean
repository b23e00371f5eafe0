import Precedents.Proofs.Formula.Moving
import Precedents.Proofs.SheetPart

/-!
# Shared formulas are a storage form

A part of a sheet as a sequence of cells, each with at most one formula, and of events between them
(`Item`). In the part with all formulas written out (`unshare`) a formula that is shared and has a
text is a plain one with that text, and one without a text has the text of the latest earlier
formula of its index, moved by the distance between the two cells. Both parts are read alike
(`read_unshare`): to the same sheet, or to the same failure.
-/

namespace Precedents.SheetPart

open Markup

/-! ## Parts as cells -/

/-- The characters that an event adds where they are wanted. -/
def characters : Event → String
  | .text content => content.getD ""
  | _ => ""

/-- The formula of a cell: its tag and the events inside, if it has an inside. -/
structure FormulaElement where
  tag : Tag
  content : Option (List Event)
  named : tag.localName = ascii "f"
  plain : ∀ e ∈ content.getD [], Plain e

namespace FormulaElement

/-- The events inside, none where there is no inside. -/
def inside (f : FormulaElement) : List Event := f.content.getD []

/-- The events of the formula. -/
def events (f : FormulaElement) : List Event :=
  match f.content with
  | none => [.empty f.tag]
  | some inside => .opening f.tag :: (inside ++ [.closing f.tag.name])

lemma plain_inside (f : FormulaElement) : ∀ e ∈ f.inside, Plain e := f.plain

/-- The text of the formula: all of its character data. -/
def text (f : FormulaElement) : String := String.join (f.inside.map characters)

/-- The index of the formula, if it is shared and has a valid one. -/
def sharedIndex? (f : FormulaElement) : Option Nat :=
  if isShared f.tag then (f.tag.value? "si").bind (Text.countBelow? Text.limit32) else none

/-- The formula as a plain one, perhaps with a text in front of what is inside. -/
def written (f : FormulaElement) (lead : Option String) : FormulaElement where
  tag := ⟨f.tag.name, []⟩
  content := some (lead.elim [] (fun t => [.text (some t)]) ++ f.inside)
  named := f.named
  plain := by
    intro e he
    cases lead with
    | none => exact f.plain e he
    | some t =>
      rcases List.mem_cons.1 he with rfl | he
      · exact ⟨id, id⟩
      · exact f.plain e he

/-- The formula written out in a cell at a place, where the earlier formulas with an index and a
text are given, the latest first. -/
def unshare (earlier : List (Nat × Master)) (place : Option Address) (f : FormulaElement) :
    FormulaElement :=
  match f.sharedIndex? with
  | none => f
  | some i =>
    if f.text = "" then
      match place, earlier.lookup i with
      | some a, some m =>
        let moved := Formula.translate m.source ((a.row : Int) - m.anchor.row)
          ((a.col : Int) - m.anchor.col)
        f.written (some (moved.toOption.getD m.source))
      | _, _ => f
    else f.written none

end FormulaElement

/-- A cell: its tag, and the events inside around the formula, if it has one. -/
structure CellElement where
  tag : Tag
  before : List Event
  formula : Option FormulaElement
  after : List Event
  named : tag.localName = ascii "c"
  plain : ∀ e ∈ before ++ after, Plain e

namespace CellElement

/-- The events inside the cell. -/
def body (c : CellElement) : List Event :=
  c.before ++ (c.formula.elim [] FormulaElement.events ++ c.after)

lemma plain_before (c : CellElement) : ∀ e ∈ c.before, Plain e :=
  fun e he => c.plain e (List.mem_append_left _ he)

lemma plain_after (c : CellElement) : ∀ e ∈ c.after, Plain e :=
  fun e he => c.plain e (List.mem_append_right _ he)

/-- The events of the cell. -/
def events (c : CellElement) : List Event :=
  .opening c.tag :: (c.body ++ [.closing c.tag.name])

/-- The address of the cell, if it has a valid one. -/
def address? (c : CellElement) : Option Address :=
  (c.tag.value? "r").bind fun reference => (Address.parse reference).toOption

/-- The text of the formula. -/
def text? (c : CellElement) : Option String := c.formula.map (·.text)

/-- The index of the formula. -/
def sharedIndex? (c : CellElement) : Option Nat := c.formula.bind (·.sharedIndex?)

/-- The formula that later cells may refer to, with its index. -/
def master? (c : CellElement) : Option (Nat × Master) := do
  let index ← c.sharedIndex?
  let source ← c.text?
  let anchor ← c.address?
  if source = "" then none else some (index, ⟨anchor, source⟩)

/-- The cell with its formula written out. -/
def unshare (earlier : List (Nat × Master)) (c : CellElement) : CellElement :=
  { c with formula := c.formula.map (·.unshare earlier c.address?) }

end CellElement

/-- A cell, or an event that starts or ends none. -/
inductive Item where
  | cell (c : CellElement)
  | other (e : Event) (apart : ¬ e.Bounds "c")

/-- The events of an item. -/
def Item.events : Item → List Event
  | cell c => c.events
  | other e _ => [e]

/-- The items with all formulas written out. -/
def unshare (earlier : List (Nat × Master)) : List Item → List Item
  | [] => []
  | .cell c :: items => .cell (c.unshare earlier) :: unshare (c.master?.toList ++ earlier) items
  | .other e apart :: items => .other e apart :: unshare earlier items

variable {strings : Array String} {s s' t : State} {es : List Event} {x y : Option String}
variable {i j : Option Nat} {m n : Masters} {f : FormulaElement} {c : CellElement} {a : Address}
variable {earlier : List (Nat × Master)} {place : Option Address}

/-! ## Written formulas -/

lemma grow_true (t : String) (e : Event) : grow true (some t) e = some (t ++ characters e) := by
  cases e with
  | text content =>
    cases content with
    | none => exact congrArg some String.append_empty.symm
    | some u => rfl
  | _ => exact congrArg some String.append_empty.symm

lemma foldl_grow_true (es : List Event) (t : String) :
    es.foldl (grow true) (some t) = some (t ++ String.join (es.map characters)) := by
  induction es generalizing t with
  | nil => exact congrArg some String.append_empty.symm
  | cons e es ih =>
    rw [List.foldl_cons, grow_true, ih, List.map_cons, String.join_cons, String.append_assoc]

lemma foldl_grow_false (es : List Event) (x : Option String) :
    es.foldl (grow false) x = x := by
  induction es with
  | nil => rfl
  | cons e es ih =>
    rw [List.foldl_cons]
    cases e with
    | text content =>
      cases content with
      | none => exact ih
      | some u => exact ih
    | _ => exact ih

/-- A formula that is written out has the text of its lead and its own. -/
lemma text_written (lead : Option String) : (f.written lead).text = lead.getD "" ++ f.text := by
  cases lead with
  | none => exact String.empty_append.symm
  | some t => exact String.join_cons

lemma sharedIndex?_written (lead : Option String) : (f.written lead).sharedIndex? = none := rfl

/-- A shared formula is moved from its anchor to the place, or taken as it is. -/
lemma sourceAt_eq (m : Master) (a : Address) :
    m.sourceAt a = (Formula.translate m.source ((a.row : Int) - m.anchor.row)
      ((a.col : Int) - m.anchor.col)).toOption.getD m.source := by
  rw [Master.sourceAt]
  cases Formula.translate m.source ((a.row : Int) - m.anchor.row) ((a.col : Int) - m.anchor.col) <;>
    rfl

/-- A shared formula with a text has one at every place. -/
lemma sourceAt_ne_empty {m : Master} (h : m.source ≠ "") (a : Address) : m.sourceAt a ≠ "" := by
  unfold Master.sourceAt
  dsimp only
  split
  case h_1 g hg => exact Formula.translate_ne_empty h hg
  case h_2 => exact h

/-- A cell that has been written out has no formula for others. -/
lemma master?_unshare (c : CellElement) : (c.unshare earlier).master? = none := by
  rw [CellElement.master?, CellElement.sharedIndex?, CellElement.text?, CellElement.unshare]
  cases c.formula with
  | none => rfl
  | some f =>
    simp only [Option.map_some, Option.bind_some, FormulaElement.unshare]
    cases hs : f.sharedIndex? with
    | none =>
      dsimp only
      rw [hs]
      rfl
    | some i =>
      by_cases ht : f.text = ""
      · simp only [ht, if_true]
        split
        case h_1 => rfl
        case h_2 => simp [hs, ht]
      · simp only [ht, if_false]
        rfl

/-- In a part that has been written out no formula is shared by others. -/
theorem master?_of_mem_unshare {items : List Item} (h : .cell c ∈ unshare earlier items) :
    c.master? = none := by
  induction items generalizing earlier with
  | nil => cases h
  | cons item items ih =>
    cases item with
    | cell d =>
      cases List.mem_cons.1 h with
      | inl he =>
        obtain rfl := Item.cell.inj he
        exact master?_unshare d
      | inr hm => exact ih hm
    | other e apart =>
      cases List.mem_cons.1 h with
      | inl he => cases he
      | inr hm => exact ih hm

/-! ## A run over a cell -/

/-- The state with a formula open or not. -/
def State.inFormula (s : State) (opened : Bool) : State :=
  { s with opened := { s.opened with formula := opened } }

/-- In a cell the tag of a formula opens it, and its index is noted. -/
lemma opening_formula (hc : s.opened.cell = true) {tag : Tag} (h : tag.localName = ascii "f") :
    s.opening tag = { s.inFormula true with pending := withFormulaTag s.pending tag } := by
  have hcell : tag.isNamed "c" = false := by rw [Tag.isNamed, h]; rfl
  have hvalue : tag.isNamed "v" = false := by rw [Tag.isNamed, h]; rfl
  have hformula : tag.isNamed "f" = true := beq_iff_eq.2 h
  obtain ⟨sheet, masters, pending, ⟨cell, value, formula, inline, inlineText⟩⟩ := s
  obtain rfl : cell = true := hc
  simp only [State.opening, hcell, hvalue, hformula, Bool.false_and, Bool.and_self,
    Bool.false_eq_true, if_false, if_true]
  rfl

/-- The end tag of a formula closes it. -/
lemma closing_formula {name : List UInt8} (h : localName name = ascii "f") :
    s.closing strings name = pure (s.inFormula false) := by
  rw [State.closing, h]
  rfl

/-- In a cell a formula without an inside has its index noted. -/
lemma empty_formula (hc : s.opened.cell = true) {tag : Tag} (h : tag.localName = ascii "f") :
    s.event strings (.empty tag) = pure { s with pending := withFormulaTag s.pending tag } := by
  have hformula : tag.isNamed "f" = true := beq_iff_eq.2 h
  simp only [State.event, hformula, hc, Bool.and_self, if_true]

/-- Characters in a formula are added to what there is of it. -/
lemma event_text (text : String) :
    (s.inFormula true).event strings (.text (some text)) =
      pure ((s.inFormula true).reform (some (s.pending.formula.getD "" ++ text))
        s.pending.sharedIndex s.masters) := by
  obtain ⟨sheet, masters, pending, ⟨cell, value, formula, inline, inlineText⟩⟩ := s
  cases value <;> cases inlineText <;> rfl

/-- A formula that was not open is closed again. -/
lemma inFormula_false (h : s.opened.formula = false) (b : Bool) :
    (s.inFormula b).inFormula false = s := by
  obtain ⟨sheet, masters, pending, ⟨cell, value, formula, inline, inlineText⟩⟩ := s
  obtain rfl : formula = false := h
  rfl

/-- Over a formula the reader goes as over what is inside of it, and keeps its text and index. -/
lemma run_formula (hc : s.opened.cell = true) (hf : s.opened.formula = false) :
    (s.reform none none m).run strings f.events =
      (fun t => (t.inFormula false).reform (some f.text) f.sharedIndex? m) <$>
        (s.inFormula true).run strings f.inside := by
  have hc' : (s.reform none none m).opened.cell = true := hc
  obtain ⟨tag, content, named, plain⟩ := f
  cases content with
  | none =>
    change (s.reform none none m).event strings (.empty tag) >>= pure = pure _
    rw [empty_formula hc' named]
    change _ = pure (((s.inFormula true).inFormula false).reform _ _ m)
    rw [inFormula_false hf]
    rfl
  | some inside =>
    have plain' : ∀ e ∈ inside, Plain e := plain
    have hname : localName tag.name = ascii "f" := named
    change pure ((s.reform none none m).opening tag) >>= (·.run strings (inside ++ _)) = _
    rw [pure_bind, opening_formula hc' named]
    change ((s.inFormula true).reform (some "") _ m).run strings _ = _
    rw [run_append, run_reform plain', bind_map_left, map_eq_pure_bind]
    -- Inside the formula only its text grows, whatever stands there.
    apply bind_congr_of_ok
    intro t _
    have hgrown : inside.foldl (grow (s.inFormula true).opened.formula) (some "") =
        some (String.join (inside.map characters)) := by
      rw [show (s.inFormula true).opened.formula = true from rfl, foldl_grow_true,
        String.empty_append]
    rw [hgrown]
    change State.closing _ strings tag.name >>= pure = _
    rw [closing_formula hname]
    rfl

/-- The reader over the inside of a formula. -/
def State.inside (strings : Array String) (s : State) :
    Option FormulaElement → Except Failure State
  | none => pure s
  | some f => (·.inFormula false) <$> (s.inFormula true).run strings f.inside

/-- The reader over the inside of a cell, but for the tags of its formula. -/
def CellElement.skeleton (strings : Array String) (c : CellElement) (s : State) :
    Except Failure State :=
  s.run strings c.before >>= fun t => t.inside strings c.formula >>= (·.run strings c.after)

/-- The formula, the index and the shared formulas have no part in what else is read of a cell. -/
lemma run_body (hc : s.opened.cell = true) (hf : s.opened.formula = false) :
    (s.reform none none m).run strings c.body =
      (·.reform c.text? c.sharedIndex? m) <$> c.skeleton strings s := by
  rw [CellElement.body, CellElement.skeleton, run_append, run_reform c.plain_before, hf,
    foldl_grow_false, bind_map_left, map_bind]
  apply bind_congr_of_ok
  intro t ht
  have hframe := frame_run c.plain_before ht
  have htc : t.opened.cell = true := (congrArg (·.1) hframe).trans hc
  have htf : t.opened.formula = false := (congrArg (·.2.1) hframe).trans hf
  rw [run_append, CellElement.text?, CellElement.sharedIndex?]
  cases c.formula with
  | none =>
    change (t.reform none none m).run strings c.after = _ <$> t.run strings c.after
    rw [run_reform c.plain_after, htf, foldl_grow_false]
    rfl
  | some f =>
    change (t.reform none none m).run strings f.events >>= _ = _
    rw [run_formula htc htf, State.inside, bind_map_left, bind_map_left, map_bind]
    apply bind_congr_of_ok
    intro u _
    rw [run_reform c.plain_after]
    rw [show (u.inFormula false).opened.formula = false from rfl, foldl_grow_false]
    rfl

/-- What stands in front of the inside of a formula has no part in what else is read. -/
lemma inside_written (lead : Option String) (hes : ∀ e ∈ es, Plain e) :
    (·.reform y j n) <$> (s.inside strings (some (f.written lead)) >>= (·.run strings es)) =
      (·.reform y j n) <$> (s.inside strings (some f) >>= (·.run strings es)) := by
  cases lead with
  | none => rfl
  | some t =>
    change _ <$> ((·.inFormula false) <$> (s.inFormula true).run strings
      (.text (some t) :: f.inside) >>= _) = _
    rw [run_cons, event_text, pure_bind, run_reform f.plain_inside, State.inside]
    simp only [bind_map_left, map_bind, Functor.map_map]
    apply bind_congr_of_ok
    intro u _
    change _ <$> ((u.inFormula false).reform _ _ _).run strings es = _
    rw [run_reform hes, Functor.map_map]
    rfl

/-- The inside of a cell is read the same way with its formula written out. -/
lemma skeleton_unshare :
    (·.reform y j n) <$> (c.unshare earlier).skeleton strings s =
      (·.reform y j n) <$> c.skeleton strings s := by
  rw [CellElement.skeleton, CellElement.skeleton, map_bind, map_bind]
  apply bind_congr_of_ok
  intro t _
  change _ <$> (t.inside strings (c.formula.map _) >>= (·.run strings c.after)) = _
  cases c.formula with
  | none => rfl
  | some f =>
    rw [Option.map_some, FormulaElement.unshare]
    split
    case h_1 => rfl
    case h_2 =>
      split
      case isTrue =>
        split
        case h_1 => exact inside_written _ c.plain_after
        case h_2 => rfl
      case isFalse => exact inside_written _ c.plain_after

/-- The inside of a cell leaves its outline as it was. -/
lemma frame_skeleton (hf : s.opened.formula = false) (h : c.skeleton strings s = .ok s') :
    s'.frame = s.frame := by
  obtain ⟨t, ht, h⟩ := exists_ok_of_bind h
  obtain ⟨u, hu, h⟩ := exists_ok_of_bind h
  refine (frame_run c.plain_after h).trans (Eq.trans ?_ (frame_run c.plain_before ht))
  have htf : t.opened.formula = false := (congrArg (·.2.1) (frame_run c.plain_before ht)).trans hf
  cases hc : c.formula with
  | none =>
    rw [hc] at hu
    obtain rfl := Except.ok.inj hu
    rfl
  | some f =>
    rw [hc] at hu
    change Except.map _ _ = _ at hu
    obtain ⟨v, hv, rfl⟩ := Workbook.exists_ok_of_map hu
    have hframe : v.frame = (t.inFormula true).frame := frame_run f.plain_inside hv
    obtain ⟨hcell, hrest⟩ := Prod.mk.inj hframe
    obtain ⟨-, hreference⟩ := Prod.mk.inj hrest
    exact Prod.ext hcell (Prod.ext htf.symm hreference)

/-! ## The end of a cell -/

/-- The shared formulas are those of a list, each with a text. -/
structure Tracks (earlier : List (Nat × Master)) (m : Masters) : Prop where
  found : ∀ i : Nat, m[i]? = earlier.lookup i
  sources : ∀ (i : Nat) (master : Master), m[i]? = some master → master.source ≠ ""

lemma Tracks.empty : Tracks [] ∅ where
  found i := Std.HashMap.getElem?_empty
  sources i master h := by
    rw [Std.HashMap.getElem?_empty] at h
    cases h

/-- A shared formula with a text is tracked ahead of the others. -/
lemma Tracks.insert (h : Tracks earlier m) {i : Nat} {master : Master} (hm : master.source ≠ "") :
    Tracks ((i, master) :: earlier) (m.insert i master) where
  found k := by
    rw [Std.HashMap.getElem?_insert, List.lookup_cons, h.found]
    by_cases hk : i = k
    · subst hk
      simp
    · simp [hk, beq_false_of_ne (Ne.symm hk)]
  sources k master' hk := by
    rw [Std.HashMap.getElem?_insert] at hk
    split at hk
    · obtain rfl := Option.some.inj hk
      exact hm
    · exact h.sources k master' hk

/-- What is written out as the formula of a cell is what the shared formulas made of it. -/
lemma slot_unshare (h : Tracks earlier m) {cell : PendingCell} (hx : cell.formula = c.text?)
    (hi : cell.sharedIndex = c.sharedIndex?) (ha : c.address? = some a) :
    PendingCell.slot { cell with
      formula := (c.unshare earlier).text?
      sharedIndex := (c.unshare earlier).sharedIndex? } ∅ a = ((cell.slot m a).1, ∅) := by
  rw [PendingCell.slot, PendingCell.slot, hx, hi]
  simp only [CellElement.unshare, CellElement.text?, CellElement.sharedIndex?]
  cases c.formula with
  | none => rfl
  | some f =>
    simp only [Option.map_some, Option.bind_some, FormulaElement.unshare]
    cases hs : f.sharedIndex? with
    | none => simp only [hs]
    | some i =>
      -- Without a text the formula refers to an earlier one; with a text it is one to refer to.
      by_cases ht : f.text = ""
      · simp only [ht, if_true, ha]
        rw [h.found]
        cases hm : earlier.lookup i with
        | none => simp [hs, ht]
        | some master =>
          have hsource : master.source ≠ "" := h.sources i master (by rw [h.found, hm])
          have hmoved := sourceAt_ne_empty hsource a
          simp only [text_written, sharedIndex?_written, ht, ← sourceAt_eq]
          simp [hmoved]
      · simp only [ht, if_false, text_written, sharedIndex?_written]
        simp [ht]

/-- The formula of a cell, if it can be shared, is tracked from then on. -/
lemma tracks_slot (h : Tracks earlier m) {cell : PendingCell} (hx : cell.formula = c.text?)
    (hi : cell.sharedIndex = c.sharedIndex?) (ha : c.address? = some a) :
    Tracks (c.master?.toList ++ earlier) (cell.slot m a).2 := by
  rw [PendingCell.slot, hx, hi, CellElement.master?, ha]
  cases c.text? with
  | none =>
    cases c.sharedIndex? <;> exact h
  | some source =>
    cases c.sharedIndex? with
    | none => exact h
    | some i =>
      by_cases hs : source = ""
      · subst hs
        dsimp only
        rw [if_pos rfl]
        cases m[i]? <;> exact h
      · simp only [Option.bind_eq_bind, Option.bind_some, hs, if_false]
        have hsource : (Master.mk a source).source ≠ "" := hs
        exact h.insert hsource

/-- The content of a cell leaves the shared formulas that its formula leaves. -/
lemma content_masters {cell : PendingCell} {content : Cell}
    (h : cell.content strings m a = .ok (content, n)) : n = (cell.slot m a).2 := by
  unfold PendingCell.content at h
  generalize cell.slot m a = slot at h
  obtain ⟨slot, masters⟩ := slot
  cases slot with
  | absent =>
    obtain ⟨v, -, h⟩ := exists_ok_of_bind h
    exact (Prod.mk.inj (Except.ok.inj h)).2.symm
  | source text => exact (Prod.mk.inj (Except.ok.inj h)).2.symm
  | orphan => exact (Prod.mk.inj (Except.ok.inj h)).2.symm

/-- Cells whose formulas come to the same have the same content. -/
lemma content_of_slot {cell : PendingCell}
    (h : PendingCell.slot { cell with formula := x, sharedIndex := i } ∅ a =
      ((cell.slot m a).1, ∅)) :
    PendingCell.content { cell with formula := x, sharedIndex := i } strings ∅ a =
      (fun p => (p.1, ∅)) <$> cell.content strings m a := by
  rw [PendingCell.content, PendingCell.content, h]
  generalize cell.slot m a = slot
  obtain ⟨slot, masters⟩ := slot
  cases slot with
  | absent =>
    dsimp only
    cases Cell.ofValue strings cell.type cell.value <;> rfl
  | source text => rfl
  | orphan => rfl

/-- The state with other shared formulas. -/
def State.holding (s : State) (masters : Masters) : State := { s with masters }

/-- The reference that was noted gives the address of the cell. -/
lemma address?_of_reference (hr : s.pending.reference = c.tag.value? "r") {reference : String}
    (he : s.pending.reference = some reference) (ha : Address.parse reference = .ok a) :
    c.address? = some a := by
  rw [CellElement.address?, ← hr, he, Option.bind_some, ha]
  rfl

/-- A cell is stored the same way with its formula written out. -/
lemma store_unshare (h : Tracks earlier s.masters) (hr : s.pending.reference = c.tag.value? "r")
    (hx : s.pending.formula = c.text?) (hi : s.pending.sharedIndex = c.sharedIndex?) :
    (s.reform (c.unshare earlier).text? (c.unshare earlier).sharedIndex? ∅).store strings =
      (·.holding ∅) <$> s.store strings := by
  have hreference : (s.reform (c.unshare earlier).text? (c.unshare earlier).sharedIndex?
      ∅).pending.reference = s.pending.reference := rfl
  rw [State.store, State.store, hreference]
  cases he : s.pending.reference with
  | none => rfl
  | some reference =>
    dsimp only
    cases ha : Address.parse reference with
    | error why => rfl
    | ok a =>
      -- The two cells differ in the formula alone, and this comes to the same slot.
      have hslot := slot_unshare h hx hi (address?_of_reference hr he ha)
      have hcontent : (s.reform (c.unshare earlier).text? (c.unshare earlier).sharedIndex?
          ∅).pending.content strings ∅ a = _ := content_of_slot hslot
      change PendingCell.content _ strings ∅ a >>= _ = _ <$> (PendingCell.content _ _ _ _ >>= _)
      rw [hcontent]
      cases s.pending.content strings s.masters a with
      | error e => rfl
      | ok p =>
        have hsheet : (s.reform (c.unshare earlier).text? (c.unshare earlier).sharedIndex?
            ∅).sheet = s.sheet := rfl
        simp only [Functor.map, Except.map, bind, Except.bind, hsheet]
        cases s.sheet.setAt ⟨a.row, a.col⟩ p.1 <;> rfl

/-- A cell that is stored leaves its formula tracked. -/
lemma tracks_store (h : Tracks earlier s.masters) (hr : s.pending.reference = c.tag.value? "r")
    (hx : s.pending.formula = c.text?) (hi : s.pending.sharedIndex = c.sharedIndex?)
    (hs : s.store strings = .ok s') :
    Tracks (c.master?.toList ++ earlier) s'.masters ∧ s'.opened = s.opened := by
  rcases store_ok hs with ⟨hnone, rfl⟩ | ⟨reference, a, content, masters, sheet, he, ha, hc, -, rfl⟩
  · have haddress : c.address? = none := by rw [CellElement.address?, ← hr, hnone]; rfl
    have hmaster : c.master? = none := by
      rw [CellElement.master?, haddress]
      cases c.sharedIndex? <;> cases c.text? <;> rfl
    rw [hmaster]
    exact ⟨h, rfl⟩
  · obtain rfl := content_masters hc
    exact ⟨tracks_slot h hx hi (address?_of_reference hr he ha), rfl⟩

/-! ## Runs over items -/

/-- Between two cells nothing of a cell is open. -/
def Outside (s : State) : Prop := s.opened.cell = false ∧ s.opened.formula = false

/-- The state in a cell that has begun. -/
def State.enter (s : State) (tag : Tag) : State :=
  { s with pending := cellOfTag tag, opened := { s.opened with cell := true } }

/-- Over a cell the reader goes as over its skeleton, and has the formula of the cell at its end. -/
lemma run_cell (c : CellElement) (h : Outside s) (m : Masters) :
    (s.holding m).run strings c.events =
      (·.reform c.text? c.sharedIndex? m) <$> c.skeleton strings (s.enter c.tag) >>=
        (·.closing strings c.tag.name) := by
  have hcell : c.tag.isNamed "c" = true := beq_iff_eq.2 c.named
  have hopening : (s.holding m).opening c.tag = (s.enter c.tag).reform none none m := by
    rw [State.opening, if_pos hcell]
    rfl
  have hf : (s.enter c.tag).opened.formula = false := h.2
  change pure ((s.holding m).opening c.tag) >>= (·.run strings (c.body ++ _)) = _
  rw [pure_bind, hopening, run_append, run_body rfl hf]
  apply bind_congr_of_ok
  intro t _
  exact bind_pure _

/-- Through the inside of a cell its reference is kept, and no formula stays open. -/
lemma frame_enter (h : Outside s) (ht : c.skeleton strings (s.enter c.tag) = .ok t) :
    t.pending.reference = c.tag.value? "r" ∧ t.opened.formula = false := by
  have hf : (s.enter c.tag).opened.formula = false := h.2
  have hframe := frame_skeleton hf ht
  exact ⟨congrArg (·.2.2) hframe, (congrArg (·.2.1) hframe).trans hf⟩

/-- A cell is read the same way with its formula written out. -/
lemma cell_unshare (h : Tracks earlier s.masters) (ho : Outside s) :
    (s.holding ∅).run strings (c.unshare earlier).events =
      (·.holding ∅) <$> s.run strings c.events := by
  have hname : localName c.tag.name = ascii "c" := c.named
  have hs : s.run strings c.events = _ := run_cell c ho s.masters
  rw [hs, run_cell _ ho, skeleton_unshare, bind_map_left, bind_map_left, map_bind]
  apply bind_congr_of_ok
  intro t ht
  obtain ⟨hr, -⟩ := frame_enter ho ht
  have hstore : (t.reform (c.unshare earlier).text? (c.unshare earlier).sharedIndex? ∅).store
      strings = _ <$> (t.reform c.text? c.sharedIndex? s.masters).store strings :=
    store_unshare (s := t.reform c.text? c.sharedIndex? s.masters) h hr rfl rfl
  change State.closing _ strings c.tag.name = _
  rw [closing_cell hname, closing_cell hname, hstore, bind_map_left, map_bind]
  rfl

/-- A cell that is read leaves its formula tracked. -/
lemma cell_tracks (h : Tracks earlier s.masters) (ho : Outside s)
    (hs : s.run strings c.events = .ok s') :
    Tracks (c.master?.toList ++ earlier) s'.masters ∧ Outside s' := by
  have hname : localName c.tag.name = ascii "c" := c.named
  have hrun : s.run strings c.events = _ := run_cell c ho s.masters
  rw [hrun, bind_map_left] at hs
  obtain ⟨t, ht, hs⟩ := exists_ok_of_bind hs
  obtain ⟨hr, hf⟩ := frame_enter ho ht
  rw [closing_cell hname] at hs
  obtain ⟨u, hu, hs⟩ := exists_ok_of_bind hs
  obtain rfl := Except.ok.inj hs
  obtain ⟨htracks, hopened⟩ :=
    tracks_store (s := t.reform c.text? c.sharedIndex? s.masters) h hr rfl rfl hu
  exact ⟨htracks, rfl, (congrArg OpenElements.formula hopened).trans hf⟩

/-- An event between cells does not look at the shared formulas. -/
lemma other_ok {e : Event} (ho : Outside s) (apart : ¬ e.Bounds "c") :
    (s.holding m).event strings e = (·.holding m) <$> s.event strings e ∧
      ∀ t, s.event strings e = .ok t → t.masters = s.masters ∧ Outside t := by
  have hneutral : Neutral s e := ⟨apart, fun _ => ho⟩
  -- The event is followed once with what the state holds and once with other shared formulas.
  have hown : s.event strings e = _ <$> s.event strings e :=
    event_reform (x := s.pending.formula) (i := s.pending.sharedIndex) (m := s.masters) hneutral
  have hother : (s.holding m).event strings e = _ <$> s.event strings e :=
    event_reform (x := s.pending.formula) (i := s.pending.sharedIndex) (m := m) hneutral
  cases he : s.event strings e with
  | error why =>
    rw [hother, he]
    refine ⟨Eq.refl (Except.error why), ?_⟩
    intro t ht
    cases ht
  | ok t =>
    rw [he] at hown
    have ht := Except.ok.inj hown
    have hmasters := congrArg State.masters ht
    have hholding := congrArg (·.holding m) ht
    have hframe := frame_event hneutral he
    rw [hother, he]
    refine ⟨congrArg Except.ok hholding.symm, ?_⟩
    rintro t' ⟨⟩
    exact ⟨hmasters, (congrArg (·.1) hframe).trans ho.1, (congrArg (·.2.1) hframe).trans ho.2⟩

/-- Items are read the same way with all formulas written out. -/
lemma run_unshare {items : List Item} (h : Tracks earlier s.masters) (ho : Outside s) :
    (s.holding ∅).run strings ((unshare earlier items).flatMap Item.events) =
      (·.holding ∅) <$> s.run strings (items.flatMap Item.events) := by
  -- On the items; what is carried along is which formulas may be referred to.
  induction items generalizing earlier s with
  | nil => rfl
  | cons item items ih =>
    rw [List.flatMap_cons, run_append, map_bind]
    cases item with
    | cell c =>
      rw [unshare, List.flatMap_cons, run_append, Item.events, Item.events, cell_unshare h ho,
        bind_map_left]
      apply bind_congr_of_ok
      intro t ht
      obtain ⟨htracks, hot⟩ := cell_tracks h ho ht
      exact ih htracks hot
    | other e apart =>
      have hother : (s.holding ∅).event strings e = _ ∧ _ := other_ok ho apart
      obtain ⟨hevent, hkept⟩ := hother
      rw [unshare, List.flatMap_cons, run_append, Item.events, run_cons, run_cons, hevent,
        bind_assoc, bind_assoc, bind_map_left]
      apply bind_congr_of_ok
      intro t ht
      obtain ⟨hmasters, hot⟩ := hkept t ht
      exact ih (hmasters ▸ h) hot

/-- A part and the part with all of its formulas written out are read alike. -/
theorem read_unshare (sheet : Worksheet) (strings : Array String) (items : List Item)
    (complete : Bool) :
    read sheet strings ⟨(unshare [] items).flatMap Item.events, complete⟩ =
      read sheet strings ⟨items.flatMap Item.events, complete⟩ := by
  have hrun : (State.start sheet).run strings ((unshare [] items).flatMap Item.events) = _ :=
    run_unshare (s := .start sheet) .empty ⟨rfl, rfl⟩
  rw [read_eq, read_eq, hrun, bind_map_left]
  rfl

end Precedents.SheetPart
