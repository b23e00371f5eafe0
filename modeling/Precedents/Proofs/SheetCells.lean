import Precedents.Proofs.SheetPart

/-!
# Cells of a sheet, each on its own

Between two cells the reader of a sheet knows the sheet and the shared formulas, and nothing else
(`State.between`). That is so because the events of a part are well nested (`Nested`): whatever is
opened in a cell is closed in it (`Tied`). So a part is read as if each of its cells were decoded by
a reader of its own, which is only given the shared formulas of the cells before it, and then stored
(`Cut.run`, `read_nested`).
-/

namespace Precedents.SheetPart

open Markup

/-! ## Parts cut into cells -/

/-- Whether an element starts or ends, with events inside. -/
def nests : Event → Bool
  | .opening _ => true
  | .closing _ => true
  | _ => false

/-- The events are well nested, and no cell lies in another: an end tag belongs to the innermost
element that is open. The elements with the first names are open before, those with the second names
after the events, the innermost first. -/
inductive Nested : List (List UInt8) → List Event → List (List UInt8) → Prop where
  | nil {opened} : Nested opened [] opened
  | opening {opened opened' tag es} :
    (tag.localName = ascii "c" → ∀ n ∈ opened, localName n ≠ ascii "c") →
    Nested (tag.name :: opened) es opened' → Nested opened (.opening tag :: es) opened'
  | closing {opened opened' name es} :
    Nested opened es opened' → Nested (name :: opened) (.closing name :: es) opened'
  | flat {opened opened' e es} :
    nests e = false → Nested opened es opened' → Nested opened (e :: es) opened'

/-- A cell as it is written: its tag and the events up to its end. -/
structure Element where
  tag : Tag
  inside : List Event
  deriving DecidableEq

/-- What a cell looks like in a part that is well nested: no other cell starts or ends in it. -/
structure Element.Proper (c : Element) : Prop where
  named : c.tag.localName = ascii "c"
  plain : ∀ e ∈ c.inside, ¬ e.Bounds "c"
  balanced : Nested [] c.inside []

/-- The tag of a cell that starts. -/
def cellTag? : Event → Option Tag
  | .opening tag => if tag.isNamed "c" then some tag else none
  | _ => none

/-- Whether a cell ends. -/
def endsCell : Event → Bool
  | .closing name => localName name == ascii "c"
  | _ => false

/-- The complete cells of a part. -/
def cells : List Event → List Element
  | [] => []
  | e :: es => match cellTag? e with
    | some tag =>
      if es.any endsCell then ⟨tag, es.takeWhile (!endsCell ·)⟩ :: cells es else cells es
    | none => cells es

/-- The events of a cell that is still open at the end of a part, if there is one. -/
def unfinished : List Event → List Event
  | [] => []
  | e :: es => if (cellTag? e).isSome && !es.any endsCell then e :: es else unfinished es

/-- A part as a sequence of complete cells, of events between them, and perhaps of the events of a
cell that is not complete. -/
inductive Cut : List Event → List Element → List Event → Prop where
  | nil : Cut [] [] []
  | between {e es cs rest} : cellTag? e = none → Cut es cs rest → Cut (e :: es) cs rest
  | cell {c name es cs rest} :
    c.Proper → localName name = ascii "c" → Cut es cs rest →
    Cut (.opening c.tag :: (c.inside ++ .closing name :: es)) (c :: cs) rest
  | unfinished {e es} :
    endsCell e = false → (∀ e ∈ es, endsCell e = false) → Cut (e :: es) [] (e :: es)

variable {strings : Array String} {s t : State} {e : Event} {es es' inside : List Event}
variable {opened opened' inner outer : List (List UInt8)} {tag : Tag} {name : List UInt8}
variable {sheet sheet' : Worksheet} {m n : Masters}

/-- An event that starts or ends a cell is its tag or its end tag. -/
lemma bounds_iff : e.Bounds "c" ↔ (cellTag? e).isSome ∨ endsCell e = true := by
  cases e with
  | opening tag =>
    have hnamed : tag.isNamed "c" = true ↔ tag.localName = ascii "c" := beq_iff_eq
    by_cases h : tag.localName = ascii "c"
    · simp [Event.Bounds, cellTag?, endsCell, h, hnamed]
    · simp [Event.Bounds, cellTag?, endsCell, h, hnamed]
  | closing name => simp [Event.Bounds, cellTag?, endsCell]
  | _ => simp [Event.Bounds, cellTag?, endsCell]

lemma endsCell_of_flat (h : nests e = false) : endsCell e = false := by
  cases e with
  | closing name => cases h
  | _ => rfl

lemma cellTag?_of_flat (h : nests e = false) : cellTag? e = none := by
  cases e with
  | opening tag => cases h
  | _ => rfl

/-- Events that are no bounds of cells end none. -/
lemma not_endsCell (h : ∀ e ∈ es, ¬ e.Bounds "c") : ∀ e ∈ es, endsCell e = false := by
  intro e he
  cases hend : endsCell e with
  | false => rfl
  | true => exact absurd (bounds_iff.2 (.inr hend)) (h e he)

lemma not_bounds_of_flat (h : nests e = false) : ¬ e.Bounds "c" := by
  rw [bounds_iff, cellTag?_of_flat h, endsCell_of_flat h]
  simp

/-- Well nested events go on with well nested ones. -/
lemma Nested.append {mid : List (List UInt8)} (h : Nested opened es mid)
    (h' : Nested mid es' opened') : Nested opened (es ++ es') opened' := by
  induction h with
  | nil => exact h'
  | opening hapart _ ih => exact .opening hapart (ih h')
  | closing _ ih => exact .closing (ih h')
  | flat hflat _ ih => exact .flat hflat (ih h')

/-- The first events of a nested part are nested themselves. -/
lemma Nested.take (h : Nested opened (es ++ es') opened') : ∃ mid, Nested opened es mid := by
  induction es generalizing opened with
  | nil => exact ⟨opened, .nil⟩
  | cons e es ih =>
    cases h with
    | opening hapart h =>
      obtain ⟨mid, h⟩ := ih h
      exact ⟨mid, .opening hapart h⟩
    | closing h =>
      obtain ⟨mid, h⟩ := ih h
      exact ⟨mid, .closing h⟩
    | flat hflat h =>
      obtain ⟨mid, h⟩ := ih h
      exact ⟨mid, .flat hflat h⟩

/-- Where no cell has ended before, the end of a cell belongs to the cell that is open, and whatever
is opened in that cell has been closed. -/
lemma Nested.split {cell : List UInt8} (hes : ∀ e ∈ es, endsCell e = false)
    (hinner : ∀ n ∈ inner, localName n ≠ ascii "c") (hcell : localName cell = ascii "c")
    (hname : localName name = ascii "c")
    (h : Nested (inner ++ cell :: outer) (es ++ .closing name :: es') opened) :
    Nested inner es [] ∧ (∀ e ∈ es, ¬ e.Bounds "c") ∧ Nested outer es' opened := by
  -- On the events in front of the end tag. No cell ends among them, so the elements that are open
  -- in the cell stand on top of it all the way.
  induction es generalizing inner with
  | nil =>
    cases inner with
    | nil =>
      cases h with
      | closing h => exact ⟨.nil, by simp, h⟩
      | flat hflat => cases hflat
    | cons n inner =>
      cases h with
      | closing h => exact absurd hname (hinner _ List.mem_cons_self)
      | flat hflat => cases hflat
  | cons e es ih =>
    obtain ⟨he, hrest⟩ := List.forall_mem_cons.1 hes
    generalize hstack : inner ++ cell :: outer = stack at h
    cases h with
    | @opening _ _ tag _ hapart h =>
      have htag : tag.localName ≠ ascii "c" := fun hc =>
        hapart hc cell (hstack ▸ List.mem_append_right _ List.mem_cons_self) hcell
      subst hstack
      obtain ⟨hin, hplain, hout⟩ :=
        ih hrest (List.forall_mem_cons.2 ⟨htag, hinner⟩) h
      exact ⟨.opening (fun hc => absurd hc htag) hin, List.forall_mem_cons.2 ⟨htag, hplain⟩, hout⟩
    | @closing _ _ name' _ h =>
      have hname' : localName name' ≠ ascii "c" := ne_of_beq_false he
      cases inner with
      | nil => exact absurd ((List.cons.inj hstack).1 ▸ hcell) hname'
      | cons n inner =>
        obtain ⟨rfl, rfl⟩ := List.cons.inj hstack
        obtain ⟨hin, hplain, hout⟩ := ih hrest (fun n hn => hinner n (List.mem_cons_of_mem _ hn)) h
        exact ⟨.closing hin, List.forall_mem_cons.2 ⟨hname', hplain⟩, hout⟩
    | flat hflat h =>
      subst hstack
      obtain ⟨hin, hplain, hout⟩ := ih hrest hinner h
      exact ⟨.flat hflat hin, List.forall_mem_cons.2 ⟨not_bounds_of_flat hflat, hplain⟩, hout⟩

lemma cells_append (h : ∀ e ∈ es, cellTag? e = none) : cells (es ++ es') = cells es' := by
  induction es with
  | nil => rfl
  | cons e es ih =>
    obtain ⟨he, hes⟩ := List.forall_mem_cons.1 h
    rw [List.cons_append, cells, he]
    exact ih hes

lemma unfinished_append (h : ∀ e ∈ es, cellTag? e = none) :
    unfinished (es ++ es') = unfinished es' := by
  induction es with
  | nil => rfl
  | cons e es ih =>
    obtain ⟨he, hes⟩ := List.forall_mem_cons.1 h
    rw [List.cons_append, unfinished, he]
    exact ih hes

/-- A part without the end of a cell has no complete cell. -/
lemma cells_eq_nil (h : ∀ e ∈ es, endsCell e = false) : cells es = [] := by
  induction es with
  | nil => rfl
  | cons e es ih =>
    obtain ⟨-, hes⟩ := List.forall_mem_cons.1 h
    have hany : es.any endsCell = false := List.any_eq_false.2 (by simpa using hes)
    rw [cells, hany, ih hes]
    cases cellTag? e <;> rfl

/-- The events up to the first end of a cell, that event, and the rest. -/
lemma exists_end (h : es.any endsCell = true) : ∃ name rest, localName name = ascii "c" ∧
    es = es.takeWhile (!endsCell ·) ++ .closing name :: rest := by
  induction es with
  | nil => cases h
  | cons e es ih =>
    cases he : endsCell e with
    | true =>
      cases e with
      | closing name => exact ⟨name, es, beq_iff_eq.1 he, by simp [he]⟩
      | _ => cases he
    | false =>
      rw [List.any_cons, he, Bool.false_or] at h
      obtain ⟨name, rest, hname, hes⟩ := ih h
      refine ⟨name, rest, hname, ?_⟩
      rw [List.takeWhile_cons_of_pos (by simp [he]), List.cons_append, ← hes]

/-- The events behind the tag of a cell that ends: what is in the cell, its end, and the rest, in
which the other cells are. -/
lemma Nested.exists_inside {cell : List UInt8} (hcell : localName cell = ascii "c")
    (h : Nested (cell :: outer) es opened) (hany : es.any endsCell = true) :
    ∃ inside name rest, inside = es.takeWhile (!endsCell ·) ∧
      es = inside ++ .closing name :: rest ∧ localName name = ascii "c" ∧
      (∀ e ∈ inside, ¬ e.Bounds "c") ∧ Nested [] inside [] ∧ Nested outer rest opened ∧
      cells es = cells rest ∧ SheetPart.unfinished es = SheetPart.unfinished rest := by
  obtain ⟨name, rest, hname, hes⟩ := exists_end hany
  generalize hinside : es.takeWhile (!endsCell ·) = inside at hes
  have hends : ∀ e ∈ inside, endsCell e = false := by
    intro e he
    have hnot := List.mem_takeWhile_imp (hinside ▸ he)
    simpa using hnot
  have h : Nested ([] ++ cell :: outer) (inside ++ .closing name :: rest) opened := hes ▸ h
  obtain ⟨hbalanced, hplain, hrest⟩ := h.split hends (by simp) hcell hname
  have hstarts : ∀ e ∈ inside ++ [.closing name], cellTag? e = none := by
    intro e he
    rcases List.mem_append.1 he with he | he
    · exact Option.not_isSome_iff_eq_none.1 fun hs => hplain e he (bounds_iff.2 (.inl hs))
    · rw [List.mem_singleton.1 he]
      rfl
  rw [List.append_cons] at hes
  refine ⟨inside, name, rest, rfl, ?_, hname, hplain, hbalanced, hrest, ?_, ?_⟩
  · rw [hes, ← List.append_cons]
  · rw [hes, cells_append hstarts]
  · rw [hes, unfinished_append hstarts]

/-- A nested part is made up of its complete cells, what is between them, and the rest. -/
theorem Nested.cut (h : Nested outer es opened) (houter : ∀ n ∈ outer, localName n ≠ ascii "c") :
    Cut es (cells es) (SheetPart.unfinished es) := by
  induction hlength : es.length using Nat.strong_induction_on generalizing es outer with
  | _ length ih =>
    subst hlength
    cases es with
    | nil => exact .nil
    | cons e es =>
      -- Over an event that starts no cell the part goes on as before.
      have hskip : ∀ {outer'}, cellTag? e = none → (∀ n ∈ outer', localName n ≠ ascii "c") →
          Nested outer' es opened → Cut (e :: es) (cells (e :: es))
            (SheetPart.unfinished (e :: es)) := by
        intro outer' he houter' h
        rw [cells, SheetPart.unfinished, he]
        exact .between he (ih _ (Nat.lt_succ_self _) h houter' rfl)
      cases h with
      | @opening _ _ tag _ hapart h =>
        by_cases htag : tag.localName = ascii "c"
        · have hcell : cellTag? (.opening tag) = some tag := by
            rw [cellTag?, Tag.isNamed, htag]
            rfl
          rw [cells, SheetPart.unfinished, hcell]
          dsimp only
          cases hany : es.any endsCell with
          | false =>
            have hes : ∀ e ∈ es, endsCell e = false := by simpa using List.any_eq_false.1 hany
            rw [cells_eq_nil hes]
            exact .unfinished rfl hes
          | true =>
            obtain ⟨inside, name, rest, hinside, hes, hname, hplain, hbalanced, hrest, hcells,
              hunfinished⟩ := h.exists_inside htag hany
            have hlt : rest.length < es.length + 1 := by
              rw [hes, List.length_append, List.length_cons]
              omega
            have hcut := ih rest.length hlt hrest houter rfl
            rw [hcells, hunfinished, ← hinside]
            simp only [Option.isSome_some, Bool.not_true, Bool.and_false, Bool.false_eq_true,
              if_true, if_false]
            rw [hes]
            exact .cell (c := ⟨tag, inside⟩) ⟨htag, hplain, hbalanced⟩ hname hcut
        · refine hskip ?_ (List.forall_mem_cons.2 ⟨htag, houter⟩) h
          rw [cellTag?, Tag.isNamed, beq_false_of_ne htag]
          rfl
      | closing h => exact hskip rfl (fun n hn => houter n (List.mem_cons_of_mem _ hn)) h
      | flat hflat h => exact hskip (cellTag?_of_flat hflat) houter h

/-! ## A cell on its own -/

/-- A cell is open, and nothing in it. -/
def cellAlone : OpenElements := { OpenElements.none with cell := true }

/-- The state between two cells: a sheet and shared formulas, and nothing of a cell. -/
def State.between (sheet : Worksheet) (masters : Masters) : State := ⟨sheet, masters, .none, .none⟩

/-- The state over another sheet, with other shared formulas. -/
def State.over (s : State) (sheet : Worksheet) (masters : Masters) : State :=
  { s with sheet, masters }

/-- What has been collected of a cell, and where it is to be stored, if it has an address. -/
def State.collected (strings : Array String) (s : State) :
    Except Failure (Option (Position × Cell) × Masters) :=
  match s.pending.reference with
  | none => pure (none, s.masters)
  | some reference => match Address.parse reference with
    | .error why => throw (.badCellReference reference why)
    | .ok a => do
      let (content, masters) ← s.pending.content strings s.masters a
      return (some (⟨a.row, a.col⟩, content), masters)

/-- The cell decoded on its own, by a reader that is only given shared formulas, and the shared
formulas after it. -/
def Element.decode (strings : Array String) (masters : Masters) (c : Element) :
    Except Failure (Option (Position × Cell) × Masters) :=
  (State.between (.empty "") masters).run strings (.opening c.tag :: c.inside) >>=
    (·.collected strings)

/-- Stores what was decoded, if it was to be stored. -/
def put (sheet : Worksheet) : Option (Position × Cell) → Except Failure Worksheet
  | none => pure sheet
  | some (p, cell) => (sheet.setAt p cell).mapError .refused

/-- Decodes a cell on its own and stores it. The shared formulas are handed on. -/
def Element.add (strings : Array String) (x : Worksheet × Masters) (c : Element) :
    Except Failure (Worksheet × Masters) := do
  let (stored, masters) ← c.decode strings x.2
  return (← put x.1 stored, masters)

/-- Decodes cells one after another and stores them. -/
def addAll (strings : Array String) (x : Worksheet × Masters) (cs : List Element) :
    Except Failure (Worksheet × Masters) :=
  cs.foldlM (Element.add strings) x

/-- The end of a cell, where nothing is open inside it. -/
lemma closing_between (hname : localName name = ascii "c")
    (hopened : s.opened = cellAlone) :
    s.closing strings name = do
      let (stored, masters) ← s.collected strings
      return .between (← put s.sheet stored) masters := by
  rw [closing_cell hname, State.store, State.collected]
  obtain ⟨sheet, masters, pending, opened⟩ := s
  obtain rfl : opened = _ := hopened
  cases hr : pending.reference with
  | none => rfl
  | some reference =>
    dsimp only
    cases Address.parse reference with
    | error why => rfl
    | ok a =>
      rw [bind_assoc, bind_assoc]
      apply bind_congr_of_ok
      rintro ⟨content, masters'⟩ _
      dsimp only
      change _ = (sheet.setAt ⟨a.row, a.col⟩ content).mapError Failure.refused >>= _
      cases sheet.setAt ⟨a.row, a.col⟩ content with
      | error why => rfl
      | ok sheet' => rfl

/-- Nothing but the end of a cell looks at the sheet and the shared formulas or changes them. -/
lemma event_over (h : endsCell e = false) :
    (s.over sheet m).event strings e = (·.over sheet m) <$> s.event strings e := by
  cases e with
  | opening tag =>
    change Except.ok ((s.over sheet m).opening tag) = Except.ok ((s.opening tag).over sheet m)
    apply congrArg Except.ok
    unfold State.opening
    change ite _ _ (ite (tag.isNamed "v" && s.opened.cell) _
      (ite (tag.isNamed "f" && s.opened.cell) _ (ite (tag.isNamed "is" && s.opened.cell) _
        (ite (tag.isNamed "t" && s.opened.inline) _ _)))) = _
    split_ifs <;> rfl
  | empty tag =>
    change Except.ok (ite (s.opened.cell && tag.isNamed "f") _ _) =
      Except.ok (State.over (ite _ _ _) _ _)
    split_ifs <;> rfl
  | closing name =>
    have hname : localName name ≠ ascii "c" := ne_of_beq_false h
    change State.closing _ _ _ = _ <$> State.closing _ _ _
    simp only [State.closing, if_neg hname]
    split_ifs <;> rfl
  -- No case of the text looks at the sheet or the shared formulas.
  | text content =>
    obtain ⟨sheet, masters, pending, ⟨cell, value, formula, inline, inlineText⟩⟩ := s
    cases content <;> cases value <;> cases formula <;> cases inlineText <;> rfl
  | other => rfl

/-- Until a cell ends, the run does not look at the sheet and the shared formulas. -/
lemma run_over (h : ∀ e ∈ es, endsCell e = false) :
    (s.over sheet m).run strings es = (·.over sheet m) <$> s.run strings es := by
  induction es generalizing s with
  | nil => rfl
  | cons e es ih =>
    obtain ⟨he, hes⟩ := List.forall_mem_cons.1 h
    rw [run_cons, run_cons, event_over he, bind_map_left, map_bind]
    apply bind_congr_of_ok
    intro t _
    exact ih hes

/-- Between two cells nothing counts but the start of a cell. -/
lemma event_between (h : cellTag? e = none) :
    (State.between sheet m).event strings e = .ok (.between sheet m) := by
  cases e with
  | opening tag =>
    have hc : tag.isNamed "c" = false := by
      cases hnamed : tag.isNamed "c" with
      | false => rfl
      | true =>
        rw [cellTag?, hnamed] at h
        cases h
    change Except.ok _ = _
    rw [State.opening, hc]
    simp [State.between, OpenElements.none]
  | empty tag => rfl
  | closing name =>
    change State.closing _ _ _ = _
    unfold State.closing
    dsimp only
    split_ifs <;> rfl
  | text content => rfl
  | other => rfl

/-! ## Elements inside a cell -/

/-- The reader is in a cell, and what it takes for open there is among the elements with these
names. -/
structure Tied (inner : List (List UInt8)) (o : OpenElements) : Prop where
  cell : o.cell = true
  value : o.value = true → ascii "v" ∈ inner.map localName
  formula : o.formula = true → ascii "f" ∈ inner.map localName
  inline : o.inline = true → ascii "is" ∈ inner.map localName
  inlineText : o.inlineText = true → ascii "t" ∈ inner.map localName

/-- In a cell that has begun nothing else is open. -/
lemma Tied.enter : Tied [] cellAlone := ⟨rfl, nofun, nofun, nofun, nofun⟩

/-- Where all elements of a cell have ended, nothing else is open. -/
lemma Tied.leave {o : OpenElements} (h : Tied [] o) : o = cellAlone := by
  obtain ⟨cell, value, formula, inline, inlineText⟩ := o
  obtain ⟨hcell, hvalue, hformula, hinline, htext⟩ := h
  simp_all [cellAlone, OpenElements.none]

/-- What is taken for open is so inside one more element. -/
lemma Tied.open {o : OpenElements} (h : Tied inner o) (name : List UInt8) :
    Tied (name :: inner) o where
  cell := h.cell
  value ho := List.mem_cons_of_mem _ (h.value ho)
  formula ho := List.mem_cons_of_mem _ (h.formula ho)
  inline ho := List.mem_cons_of_mem _ (h.inline ho)
  inlineText ho := List.mem_cons_of_mem _ (h.inlineText ho)

/-- An element that starts in a cell keeps the reader in step. -/
lemma Tied.opening (h : Tied inner s.opened) (htag : tag.localName ≠ ascii "c") :
    Tied (tag.name :: inner) (s.opening tag).opened := by
  have hnamed : ∀ w b, (tag.isNamed w && b) = true →
      ascii w ∈ (tag.name :: inner).map localName := by
    intro w b hw
    have hlocal : tag.localName = ascii w := beq_iff_eq.1 (Bool.and_eq_true_iff.1 hw).1
    exact hlocal ▸ List.mem_cons_self
  have hopen := h.open tag.name
  rw [State.opening, isNamed_eq_false htag, if_neg Bool.false_ne_true]
  split_ifs with hv hf hi ht
  · exact { hopen with value := fun _ => hnamed _ _ hv }
  · exact { hopen with formula := fun _ => hnamed _ _ hf }
  · exact { hopen with inline := fun _ => hnamed _ _ hi }
  · exact { hopen with inlineText := fun _ => hnamed _ _ ht }
  · exact hopen

/-- An element that ends in a cell keeps the reader in step. -/
lemma Tied.closing (h : Tied (name :: inner) s.opened) (hname : localName name ≠ ascii "c")
    (hs : s.closing strings name = .ok t) : Tied inner t.opened := by
  -- An element that is still taken for open is not the one that has ended.
  have hrest : ∀ w, ascii w ∈ (name :: inner).map localName → localName name ≠ ascii w →
      ascii w ∈ inner.map localName :=
    fun w hw hne => (List.mem_cons.1 hw).resolve_left (Ne.symm hne)
  have hended : ∀ w, false = true → ascii w ∈ inner.map localName :=
    fun w ho => absurd ho Bool.false_ne_true
  simp only [State.closing, if_neg hname] at hs
  split_ifs at hs with hv hf hi ht
  · obtain rfl := Except.ok.inj hs
    exact ⟨h.cell, hended _, fun ho => hrest _ (h.formula ho) (hv ▸ by decide),
      fun ho => hrest _ (h.inline ho) (hv ▸ by decide),
      fun ho => hrest _ (h.inlineText ho) (hv ▸ by decide)⟩
  · obtain rfl := Except.ok.inj hs
    exact ⟨h.cell, fun ho => hrest _ (h.value ho) hv, hended _,
      fun ho => hrest _ (h.inline ho) (hf ▸ by decide),
      fun ho => hrest _ (h.inlineText ho) (hf ▸ by decide)⟩
  · obtain rfl := Except.ok.inj hs
    exact ⟨h.cell, fun ho => hrest _ (h.value ho) hv, fun ho => hrest _ (h.formula ho) hf,
      hended _, fun ho => hrest _ (h.inlineText ho) (hi ▸ by decide)⟩
  · obtain rfl := Except.ok.inj hs
    exact ⟨h.cell, fun ho => hrest _ (h.value ho) hv, fun ho => hrest _ (h.formula ho) hf,
      fun ho => hrest _ (h.inline ho) hi, hended _⟩
  · obtain rfl := Except.ok.inj hs
    exact ⟨h.cell, fun ho => hrest _ (h.value ho) hv, fun ho => hrest _ (h.formula ho) hf,
      fun ho => hrest _ (h.inline ho) hi, fun ho => hrest _ (h.inlineText ho) ht⟩

/-- What does not nest opens and closes nothing. -/
lemma opened_flat (h : nests e = false) (hs : s.event strings e = .ok t) : t.opened = s.opened := by
  cases e with
  | opening tag => cases h
  | empty tag =>
    obtain rfl := Except.ok.inj hs
    split_ifs <;> rfl
  | closing name => cases h
  | text content =>
    obtain ⟨sheet, masters, pending, ⟨cell, value, formula, inline, inlineText⟩⟩ := s
    cases content <;> cases value <;> cases formula <;> cases inlineText <;> cases hs <;> rfl
  | other =>
    obtain rfl := Except.ok.inj hs
    rfl

/-- What the reader takes for open in a cell is open there, whatever comes in between. -/
lemma Nested.tied (h : Nested inner es opened) (hplain : ∀ e ∈ es, ¬ e.Bounds "c")
    (htied : Tied inner s.opened) (hs : s.run strings es = .ok t) : Tied opened t.opened := by
  induction h generalizing s with
  | nil =>
    obtain rfl := Except.ok.inj hs
    exact htied
  | opening _ _ ih =>
    obtain ⟨htag, hplain⟩ := List.forall_mem_cons.1 hplain
    rw [run_cons] at hs
    obtain ⟨u, hu, hs⟩ := exists_ok_of_bind hs
    obtain rfl := Except.ok.inj hu
    exact ih hplain (htied.opening htag) hs
  | closing _ ih =>
    obtain ⟨hname, hplain⟩ := List.forall_mem_cons.1 hplain
    rw [run_cons] at hs
    obtain ⟨u, hu, hs⟩ := exists_ok_of_bind hs
    exact ih hplain (htied.closing hname hu) hs
  | flat hflat _ ih =>
    obtain ⟨-, hplain⟩ := List.forall_mem_cons.1 hplain
    rw [run_cons] at hs
    obtain ⟨u, hu, hs⟩ := exists_ok_of_bind hs
    exact ih hplain (opened_flat hflat hu ▸ htied) hs

/-! ## Runs over cells -/

/-- The tag of a cell starts a new one. -/
lemma run_opening (htag : tag.localName = ascii "c") :
    (State.between sheet m).run strings (.opening tag :: es) =
      (State.mk sheet m (cellOfTag tag) cellAlone).run strings es := by
  have hnamed : tag.isNamed "c" = true := beq_iff_eq.2 htag
  rw [run_cons]
  change Except.ok ((State.between sheet m).opening tag) >>= _ = _
  rw [State.opening, if_pos hnamed]
  rfl

/-- Before a cell ends, the shared formulas are what they were. -/
lemma masters_run (h : ∀ e ∈ es, endsCell e = false) (hs : s.run strings es = .ok t) :
    t.masters = s.masters := by
  have hover : (s.over s.sheet s.masters).run strings es = .ok (t.over s.sheet s.masters) := by
    rw [run_over h, hs]
    rfl
  rw [show s.over s.sheet s.masters = s from rfl, hs] at hover
  rw [Except.ok.inj hover]
  rfl

/-- Over a cell the reader goes as if the cell were decoded on its own and stored. -/
lemma run_element {c : Element} (h : c.Proper) (hname : localName name = ascii "c") :
    (State.between sheet m).run strings (.opening c.tag :: (c.inside ++ .closing name :: es)) =
      Element.add strings (sheet, m) c >>= fun x => (State.between x.1 x.2).run strings es := by
  have hends := not_endsCell h.plain
  rw [Element.add, Element.decode, bind_assoc, bind_assoc, run_opening h.named, run_opening h.named]
  generalize hu : State.mk (.empty "") m (cellOfTag c.tag) cellAlone = u
  have hover : State.mk sheet m (cellOfTag c.tag) cellAlone = u.over sheet m := hu ▸ rfl
  rw [hover, run_append, run_over hends, bind_map_left]
  apply bind_congr_of_ok
  intro t ht
  have hmasters : t.masters = m := (masters_run hends ht).trans (hu ▸ rfl)
  have hopened : t.opened = cellAlone :=
    (h.balanced.tied h.plain (hu ▸ Tied.enter) ht).leave
  have hcollected : (t.over sheet m).collected strings = t.collected strings := by
    rw [← hmasters]
    rfl
  rw [run_cons]
  change (t.over sheet m).closing strings name >>= _ = _
  rw [closing_between (s := t.over sheet m) hname hopened, hcollected, bind_assoc]
  apply bind_congr_of_ok
  rintro ⟨stored, masters⟩ _
  dsimp only
  rw [bind_assoc, bind_assoc]
  rfl

/-- A part is read as if its cells were decoded on their own and stored, one after another. -/
theorem Cut.run {cs : List Element} {rest : List Event} (h : Cut es cs rest)
    (x : Worksheet × Masters) :
    (State.between x.1 x.2).run strings es =
      addAll strings x cs >>= fun y => (State.between y.1 y.2).run strings rest := by
  induction h generalizing x with
  | nil => rfl
  | between he _ ih => rw [run_cons, event_between he, ← ih]; rfl
  | cell hproper hname _ ih =>
    rw [run_element hproper hname, addAll, List.foldlM_cons, bind_assoc]
    apply bind_congr_of_ok
    intro y _
    exact ih y
  | unfinished => rfl

/-! ## Reading -/

/-- What is left of a part behind its complete cells ends no cell. -/
lemma Cut.not_endsCell {cs : List Element} {rest : List Event} (h : Cut es cs rest) :
    ∀ e ∈ rest, endsCell e = false := by
  induction h with
  | nil => exact nofun
  | between _ _ ih => exact ih
  | cell _ _ _ ih => exact ih
  | unfinished he hes => exact List.forall_mem_cons.2 ⟨he, hes⟩

/-- The cells that a part is cut into are proper. -/
lemma Cut.proper {cs : List Element} {rest : List Event} (h : Cut es cs rest) :
    ∀ c ∈ cs, c.Proper := by
  induction h with
  | nil => exact nofun
  | between _ _ ih => exact ih
  | cell hproper _ _ ih => exact List.forall_mem_cons.2 ⟨hproper, ih⟩
  | unfinished => exact nofun

/-- A part is read by decoding and storing its cells one after another. The events of a cell that is
not complete can only fail. -/
theorem read_nested (h : Nested [] es opened) (complete : Bool) :
    read sheet strings ⟨es, complete⟩ = (do
      let x ← addAll strings (sheet, ∅) (cells es)
      let _ ← (State.between (.empty "") ∅).run strings (unfinished es)
      if complete then pure x.1 else throw .badMarkup) := by
  have hcut := h.cut (by simp)
  rw [read_eq]
  change (State.between sheet ∅).run strings es >>= _ = _
  rw [hcut.run (sheet, ∅), bind_assoc]
  apply bind_congr_of_ok
  rintro ⟨sheet', masters⟩ _
  change ((State.between (.empty "") ∅).over sheet' masters).run strings _ >>= _ = _
  rw [run_over hcut.not_endsCell, bind_map_left]
  apply bind_congr_of_ok
  intro t _
  rfl

/-- An open cell is the end of the part. -/
lemma unfinished_suffix (es : List Event) : unfinished es <:+ es := by
  induction es with
  | nil => exact List.suffix_rfl
  | cons e es ih =>
    rw [unfinished]
    split
    case isTrue => exact List.suffix_rfl
    case isFalse => exact ih.trans (List.suffix_cons e es)

/-- Right after the end of a cell nothing is open, and nothing is known of a cell. -/
theorem Nested.fresh {before after : List Event} {opened : List (List UInt8)}
    (h : Nested [] (before ++ .closing name :: after) opened) (hname : localName name = ascii "c")
    (hs : (State.start sheet).run strings (before ++ [.closing name]) = .ok s) :
    s.opened = .none ∧ s.pending = .none := by
  rw [List.append_cons] at h
  obtain ⟨mid, h⟩ := h.take
  have hcut := h.cut (by simp)
  have hrest : SheetPart.unfinished (before ++ [.closing name]) = [] := by
    rcases List.suffix_concat_iff.1 (unfinished_suffix (before ++ [.closing name])) with
      hnil | ⟨es, hes, -⟩
    · exact hnil
    · have hend := hcut.not_endsCell (.closing name) (hes ▸ by simp)
      exact absurd hname (ne_of_beq_false hend)
  have hrun : (State.start sheet).run strings (before ++ [.closing name]) = _ :=
    hcut.run (sheet, ∅)
  rw [hrest, hs] at hrun
  obtain ⟨y, -, hy⟩ := exists_ok_of_bind hrun.symm
  obtain rfl := Except.ok.inj hy
  exact ⟨rfl, rfl⟩

end Precedents.SheetPart
