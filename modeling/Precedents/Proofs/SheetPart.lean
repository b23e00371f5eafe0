import Precedents.Package.SheetPart
import Precedents.Proofs.Workbook

/-!
# The reader of a sheet, event by event

What an event does to the reader is said once for each kind of event. An event that has no part in a
cell's outline (`Neutral`) neither sees nor touches the formula of the pending cell, its index and
the shared formulas, except that character data goes on an open formula (`event_reform`), and it
leaves the outline as it is (`frame_event`). The end of a cell stores it (`store_ok`), and nothing
else touches the sheet (`event_sheet`). So what `setAt` preserves holds of every sheet that is read
(`read_keeps`).
-/

namespace Precedents

section

variable {ε α β : Type} {x : Except ε α} {f g : α → Except ε β} {b : β}

lemma exists_ok_of_bind (h : x >>= f = .ok b) : ∃ a, x = .ok a ∧ f a = .ok b := by
  cases x with
  | error e => cases h
  | ok a => exact ⟨a, rfl, h⟩

lemma bind_congr_of_ok (h : ∀ a, x = .ok a → f a = g a) : x >>= f = x >>= g := by
  cases x with
  | error e => rfl
  | ok a => exact h a rfl

/-- What every step of a fold keeps, where it may speak of what is still to come, holds at its
end. -/
lemma foldlM_invariant {step : β → α → Except ε β} {I : List α → β → Prop} {as : List α} {b' : β}
    (keeps : ∀ a as b b', I (a :: as) b → step b a = .ok b' → I as b') (hI : I as b)
    (h : as.foldlM step b = .ok b') : I [] b' := by
  induction as generalizing b with
  | nil =>
    obtain rfl := Except.ok.inj h
    exact hI
  | cons a as ih =>
    rw [List.foldlM_cons] at h
    obtain ⟨c, hc, h⟩ := exists_ok_of_bind h
    exact ih (keeps a as b c hI hc) h

end

namespace Markup

/-- The event starts or ends an element with this name, whatever its prefix. -/
def Event.Bounds (name : String) : Event → Prop
  | opening tag => tag.localName = ascii name
  | closing n => localName n = ascii name
  | _ => False

/-- The event starts or ends an element with this name, or is one without content. -/
def Event.Touches (name : String) : Event → Prop
  | empty tag => tag.localName = ascii name
  | e => e.Bounds name

/-- A tag of another name does not have this one. -/
lemma isNamed_eq_false {tag : Tag} {name : String} (h : tag.localName ≠ ascii name) :
    tag.isNamed name = false := beq_false_of_ne h

end Markup

namespace SheetPart

open Markup

variable {strings : Array String} {s s' : State} {e : Event} {es es' : List Event}
variable {x y : Option String} {i j : Option Nat} {m n : Masters} {tag : Tag} {name : List UInt8}

/-! ## Events without a part in a cell's outline -/

/-- The state with another formula of the pending cell, another index and other shared formulas. -/
def State.reform (s : State) (formula : Option String) (index : Option Nat) (masters : Masters) :
    State :=
  { s with masters, pending := { s.pending with formula, sharedIndex := index } }

/-- The formula of the pending cell after an event, where `opened` tells whether a formula is
open. -/
def grow (opened : Bool) (formula : Option String) : Event → Option String
  | .text (some text) => if opened then some (formula.getD "" ++ text) else formula
  | _ => formula

/-- An event that starts or ends no cell, and a formula only where it does not count: in no cell. -/
def Neutral (s : State) (e : Event) : Prop :=
  ¬ e.Bounds "c" ∧ (e.Touches "f" → s.opened.cell = false ∧ s.opened.formula = false)

/-- The outline of the pending cell: whether it and its formula are open, and its address. -/
def State.frame (s : State) : Bool × Bool × Option String :=
  (s.opened.cell, s.opened.formula, s.pending.reference)

/-- A neutral tag opens no formula. -/
lemma isNamed_formula (h : tag.localName = ascii "f" → s.opened.cell = false) :
    (tag.isNamed "f" && s.opened.cell) = false := by
  by_cases hn : tag.localName = ascii "f"
  · rw [h hn, Bool.and_false]
  · rw [isNamed_eq_false hn, Bool.false_and]

/-- A neutral start tag opens a value, an inline string or its text, or nothing. -/
lemma Neutral.opening (h : Neutral s (.opening tag)) :
    s.opening tag =
      if tag.isNamed "v" && s.opened.cell then { s with opened := { s.opened with value := true } }
      else if tag.isNamed "is" && s.opened.cell then
        { s with opened := { s.opened with inline := true } }
      else if tag.isNamed "t" && s.opened.inline then
        { s with
          pending := { s.pending with type := some "inlineStr" }
          opened := { s.opened with inlineText := true } }
      else s := by
  have hc : tag.isNamed "c" = false := isNamed_eq_false h.1
  have hf : (tag.isNamed "f" && s.opened.cell) = false := isNamed_formula fun hn => (h.2 hn).1
  simp only [State.opening, hc, hf, Bool.false_eq_true, if_false]

lemma Neutral.empty (h : Neutral s (.empty tag)) : s.event strings (.empty tag) = .ok s := by
  have hf : (tag.isNamed "f" && s.opened.cell) = false := isNamed_formula fun hn => (h.2 hn).1
  rw [Bool.and_comm] at hf
  simp only [State.event, hf, Bool.false_eq_true, if_false]
  rfl

/-- A neutral end tag closes a value, an inline string or its text, or nothing. -/
lemma Neutral.closing (h : Neutral s (.closing name)) :
    s.closing strings name =
      if localName name = ascii "v" then pure { s with opened := { s.opened with value := false } }
      else if localName name = ascii "is" then
        pure { s with opened := { s.opened with inline := false } }
      else if localName name = ascii "t" then
        pure { s with opened := { s.opened with inlineText := false } }
      else pure s := by
  have hc : localName name ≠ ascii "c" := h.1
  simp only [State.closing, if_neg hc]
  by_cases hf : localName name = ascii "f"
  · have hopened : { s.opened with formula := false } = s.opened := by
      rw [← (h.2 hf).2]
    rw [hopened, if_pos hf, hf]
    rfl
  · rw [if_neg hf]

/-- What a neutral event does depends neither on the formula of the pending cell nor on its index or
the shared formulas. -/
lemma event_reform (h : Neutral s e) :
    (s.reform x i m).event strings e =
      (·.reform (grow s.opened.formula x e) i m) <$> s.event strings e := by
  have h' : Neutral (s.reform x i m) e := h
  cases e with
  | opening tag =>
    change Except.ok ((s.reform x i m).opening tag) = Except.ok ((s.opening tag).reform x i m)
    rw [h.opening, h'.opening]
    apply congrArg Except.ok
    -- Tags of values, inline strings and their texts are told apart by the same conditions.
    change ite (tag.isNamed "v" && s.opened.cell) _ (ite (tag.isNamed "is" && s.opened.cell) _
      (ite (tag.isNamed "t" && s.opened.inline) _ _)) = _
    split
    · rfl
    split
    · rfl
    split
    · rfl
    · rfl
  | empty tag =>
    rw [h.empty, h'.empty]
    rfl
  | closing name =>
    change State.closing _ _ _ = _ <$> State.closing _ _ _
    rw [h.closing, h'.closing]
    split
    · rfl
    split
    · rfl
    split
    · rfl
    · rfl
  | text content =>
    obtain ⟨sheet, masters, pending, ⟨cell, value, formula, inline, inlineText⟩⟩ := s
    cases content <;> cases value <;> cases formula <;> cases inlineText <;> rfl
  | other => rfl

/-- A neutral event leaves the outline of the cell as it was. -/
lemma frame_event (h : Neutral s e) (hs : s.event strings e = .ok s') : s'.frame = s.frame := by
  cases e with
  | opening tag =>
    obtain rfl : s.opening tag = s' := Except.ok.inj hs
    rw [h.opening]
    split
    · rfl
    split
    · rfl
    split
    · rfl
    · rfl
  | empty tag =>
    rw [h.empty] at hs
    obtain rfl := Except.ok.inj hs
    rfl
  | closing name =>
    change s.closing strings name = _ at hs
    rw [h.closing] at hs
    split_ifs at hs
    all_goals
      obtain rfl := Except.ok.inj hs
      rfl
  | text content =>
    obtain ⟨sheet, masters, pending, ⟨cell, value, formula, inline, inlineText⟩⟩ := s
    cases content <;> cases value <;> cases formula <;> cases inlineText <;> cases hs <;> rfl
  | other =>
    obtain rfl := Except.ok.inj hs
    rfl

/-! ## Runs -/

/-- The state after some events. -/
def State.run (strings : Array String) (s : State) (es : List Event) : Except Failure State :=
  es.foldlM (State.event strings) s

lemma run_cons : s.run strings (e :: es) = s.event strings e >>= (·.run strings es) :=
  List.foldlM_cons

lemma run_opened : s.run strings (.opening tag :: es) = (s.opening tag).run strings es := rfl

lemma run_closed :
    s.run strings (.closing name :: es) = s.closing strings name >>= (·.run strings es) := run_cons

lemma run_append : s.run strings (es ++ es') = s.run strings es >>= (·.run strings es') :=
  List.foldlM_append

/-- A sheet is what a run over a complete document leaves. -/
lemma read_eq (sheet : Worksheet) (d : Document) :
    read sheet strings d = (State.start sheet).run strings d.events >>= fun s =>
      if d.complete then pure s.sheet else throw .badMarkup := by
  rw [read, Document.follow, State.run, bind_assoc]
  apply bind_congr_of_ok
  intro s _
  cases d.complete <;> rfl

/-- An event inside a cell that belongs to no formula's tag. -/
def Plain (e : Event) : Prop := ¬ e.Bounds "c" ∧ ¬ e.Touches "f"

/-- A plain event is neutral in every state. -/
lemma Plain.neutral (h : Plain e) (s : State) : Neutral s e := ⟨h.1, fun hf => absurd hf h.2⟩

/-- Over plain events, the formula only grows and its index is not looked at. -/
lemma run_reform (h : ∀ e ∈ es, Plain e) :
    (s.reform x i m).run strings es =
      (·.reform (es.foldl (grow s.opened.formula) x) i m) <$> s.run strings es := by
  induction es generalizing s x with
  | nil => rfl
  | cons e es ih =>
    obtain ⟨he, hes⟩ := List.forall_mem_cons.1 h
    rw [run_cons, run_cons, event_reform (he.neutral s), bind_map_left, map_bind]
    apply bind_congr_of_ok
    intro t ht
    have hopened : t.opened.formula = s.opened.formula :=
      congrArg (·.2.1) (frame_event (he.neutral s) ht)
    rw [ih hes, hopened]
    rfl

/-- Plain events leave the outline of the cell as it was. -/
lemma frame_run (h : ∀ e ∈ es, Plain e) (hs : s.run strings es = .ok s') : s'.frame = s.frame := by
  refine (foldlM_invariant (I := fun es t => (∀ e ∈ es, Plain e) ∧ t.frame = s.frame) ?_ ⟨h, rfl⟩
    hs).2
  rintro e es t t' ⟨hes, hframe⟩ ht
  obtain ⟨he, hes⟩ := List.forall_mem_cons.1 hes
  exact ⟨hes, (frame_event (he.neutral t) ht).trans hframe⟩

/-! ## The end of a cell -/

/-- A cell is stored under its address, or passed over where it has none. -/
lemma store_ok (h : s.store strings = .ok s') :
    (s.pending.reference = none ∧ s' = { s with pending := .none }) ∨
      ∃ reference a content masters sheet, s.pending.reference = some reference ∧
        Address.parse reference = .ok a ∧
        s.pending.content strings s.masters a = .ok (content, masters) ∧
        s.sheet.setAt ⟨a.row, a.col⟩ content = .ok sheet ∧
        s' = { s with sheet, masters, pending := .none } := by
  unfold State.store at h
  split at h
  case h_1 hr => exact .inl ⟨hr, (Except.ok.inj h).symm⟩
  case h_2 reference hr =>
    split at h
    case h_1 => cases h
    case h_2 a ha =>
      obtain ⟨⟨content, masters⟩, hc, h⟩ := exists_ok_of_bind h
      dsimp only at h
      split at h
      case h_1 => cases h
      case h_2 sheet hset =>
        exact .inr ⟨reference, a, content, masters, sheet, hr, ha, hc, hset,
          (Except.ok.inj h).symm⟩

/-- The end tag of a cell stores it and closes it. -/
lemma closing_cell (h : localName name = ascii "c") :
    s.closing strings name =
      s.store strings >>= fun t => pure { t with opened := { t.opened with cell := false } } := by
  rw [State.closing, if_pos h]

/-! ## The sheet -/

/-- An event leaves the sheet as it is or stores one cell. -/
lemma event_sheet (h : s.event strings e = .ok s') :
    s'.sheet = s.sheet ∨ ∃ p cell, s.sheet.setAt p cell = .ok s'.sheet := by
  cases e with
  | opening tag =>
    obtain rfl := Except.ok.inj h
    left
    unfold State.opening
    split_ifs <;> rfl
  | empty tag =>
    obtain rfl := Except.ok.inj h
    left
    split_ifs <;> rfl
  | closing name =>
    change s.closing strings name = _ at h
    -- Only the end of a cell stores anything.
    by_cases hc : localName name = ascii "c"
    · rw [closing_cell hc] at h
      obtain ⟨t, ht, h⟩ := exists_ok_of_bind h
      obtain rfl := Except.ok.inj h
      rcases store_ok ht with ⟨-, rfl⟩ | ⟨_, a, content, _, sheet, -, -, -, hset, rfl⟩
      · exact .inl rfl
      · exact .inr ⟨_, _, hset⟩
    · left
      simp only [State.closing, if_neg hc] at h
      split_ifs at h
      all_goals
        obtain rfl := Except.ok.inj h
        rfl
  | text content =>
    left
    obtain ⟨sheet, masters, pending, ⟨cell, value, formula, inline, inlineText⟩⟩ := s
    cases content <;> cases value <;> cases formula <;> cases inlineText <;> cases h <;> rfl
  | other =>
    obtain rfl := Except.ok.inj h
    exact .inl rfl

/-- What holds of a sheet and is kept wherever a cell is stored holds after reading. -/
theorem read_keeps {P : Worksheet → Prop} {sheet sheet' : Worksheet} {d : Document}
    (keeps : ∀ ws p cell ws', P ws → Worksheet.setAt ws p cell = .ok ws' → P ws') (hP : P sheet)
    (h : read sheet strings d = .ok sheet') : P sheet' := by
  rw [read_eq] at h
  obtain ⟨s, hs, h⟩ := exists_ok_of_bind h
  cases hd : d.complete with
  | false =>
    rw [hd] at h
    cases h
  | true =>
    rw [hd] at h
    obtain rfl := Except.ok.inj h
    refine foldlM_invariant (I := fun _ s => P s.sheet) ?_ hP hs
    intro e _ t t' ht he
    rcases event_sheet he with hsame | ⟨p, cell, hset⟩
    · exact hsame ▸ ht
    · exact keeps _ _ _ _ ht hset

end SheetPart

end Precedents
