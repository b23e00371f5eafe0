import Precedents.Proofs.Workbook

/-!
# Runs of edits

An edit may also be carried out on the workbook itself, one change after another (`Edit.perform`).
Whatever has been changed by the time it is refused is then left behind. That comes to the same as
making a new workbook and keeping the old one where none is made (`Edit.on_perform`), since every
check stands in front of the first change. So after any run of edits, refused ones among them, names
are looked up to the sheets that have them, every name is legal and differs from the others, one of
the sheets is active, and the sheets that were added are still in their places (`run_consistent`).
-/

namespace Precedents

/-! ## Work in place -/

/-- A procedure that works on a state in place. It may be refused, and it leaves a state behind
either way. -/
abbrev InPlace (σ : Type) := ExceptT Error (StateM σ)

/-- What comes of work in place: the answer or the refusal, and the state that is left behind. -/
def InPlace.on {σ α : Type} (x : InPlace σ α) (s : σ) : Except Error α × σ := (x.run.run s).run

/-- What comes of a step to a new state, where the old one stays when the step is refused. -/
def settle {σ α : Type} (s : σ) : Except Error (α × σ) → Except Error α × σ
  | .ok (a, s') => (.ok a, s')
  | .error why => (.error why, s)

section InPlace

variable {σ α β : Type} {s : σ} {x : InPlace σ α} {g : α → β} {r : Except Error (α × σ)}

/-- One step after another: the second is taken where the first left the state, unless that failed.
-/
lemma on_bind {k : α → InPlace σ β} : (x >>= k).on s = match x.on s with
    | (.ok a, s') => (k a).on s'
    | (.error why, s') => (.error why, s') := by
  simp only [InPlace.on, ExceptT.run_bind, StateT.run_bind, Id.run_bind]
  rcases (x.run.run s).run with ⟨a | why, s'⟩
  · rfl
  · rfl

lemma on_get_bind {k : σ → InPlace σ β} : (get >>= k).on s = (k s).on s := rfl

/-- Changing the answer of a settled step leaves it settled. -/
lemma on_map_settle (h : x.on s = settle s r) :
    (g <$> x).on s = settle s (r.map fun (a, s') => (g a, s')) := by
  rw [map_eq_pure_bind, on_bind, h]
  cases r with
  | error why => rfl
  | ok p => rfl

end InPlace

namespace Worksheet

/-- Stores a cell in place. -/
def store (p : Position) (cell : Cell) : InPlace Worksheet Unit := do
  if rowLimit ≤ p.row then throw (.rowBeyondGrid p.row)
  if columnLimit ≤ p.col then throw (.columnBeyondGrid p.col)
  if cell.isBlank then modify fun ws => { ws with cells := ws.cells.erase p }
  else modify fun ws => { ws with cells := ws.cells.insert p cell }

/-- Stores a cell under an address in place. -/
def storeUnder (address : String) (cell : Cell) : InPlace Worksheet Unit := do
  let a ← MonadExcept.ofExcept (Address.parse address)
  store ⟨a.row, a.col⟩ cell

variable {ws : Worksheet} {p : Position} {cell : Cell} {address : String}

/-- Storing a cell in place is storing it, and nothing where that is refused. -/
lemma on_store : (store p cell).on ws = settle ws ((ws.setAt p cell).map ((), ·)) := by
  unfold store setAt
  by_cases hrow : rowLimit ≤ p.row
  · rw [if_pos hrow, if_pos hrow]
    rfl
  · rw [if_neg hrow, if_neg hrow]
    by_cases hcol : columnLimit ≤ p.col
    · rw [if_pos hcol, if_pos hcol]
      rfl
    · rw [if_neg hcol, if_neg hcol]
      by_cases hblank : cell.isBlank
      · rw [if_pos hblank, if_pos hblank]
        rfl
      · rw [if_neg hblank, if_neg hblank]
        rfl

/-- Storing a cell under an address in place is storing it there, and nothing where that is refused.
-/
lemma on_storeUnder :
    (storeUnder address cell).on ws = settle ws ((ws.set address cell).map ((), ·)) := by
  unfold storeUnder Worksheet.set
  cases Address.parse address with
  | error why => rfl
  | ok a => exact on_store

end Worksheet

namespace Workbook

/-- Appends a sheet in place and gives its place. Its name is entered in the index first. -/
def append (ws : Worksheet) : InPlace Workbook Nat := do
  let index := (← get).sheetCount
  modify fun wb => { wb with byName := wb.byName.insert (SheetName.fold ws.name) index }
  modify fun wb => { wb with sheets := wb.sheets.push ws }
  return index

/-- Appends an empty sheet with a given name in place and gives its place. -/
def appendNamed (name : String) : InPlace Workbook Nat := do
  if let some flaw := SheetName.flaw? name then throw (.illegalSheetName name flaw)
  let wb ← get
  if (wb.sheetIndex? name).isSome then throw (.takenSheetName name)
  append (.empty name)

/-- Makes the sheet at a place the active one, in place. -/
def select (index : Nat) : InPlace Workbook Unit := do
  let wb ← get
  if wb.sheetCount ≤ index then throw (.sheetBeyondWorkbook index wb.sheetCount)
  modify fun wb => { wb with active := index }

/-- Works on the sheet at a place. Whatever is left behind of the sheet is left behind in the
workbook, also where the work is refused. -/
def within (index : Nat) (work : InPlace Worksheet Unit) : InPlace Workbook Unit := do
  let wb ← get
  match wb.sheet? index with
  | none => throw (.sheetBeyondWorkbook index wb.sheetCount)
  | some ws =>
    let (outcome, ws') := work.on ws
    modify fun wb => wb.setSheet index ws'
    MonadExcept.ofExcept outcome

variable {wb : Workbook} {ws : Worksheet} {name : String} {index : Nat}

/-- Appending a sheet in place is adding it, and nothing where that is refused. -/
lemma on_appendNamed : (appendNamed name).on wb = settle wb (wb.addNamed name) := by
  unfold appendNamed addNamed
  cases SheetName.flaw? name with
  | some flaw => rfl
  | none =>
    change (get >>= _ : InPlace Workbook Nat).on wb = _
    rw [on_get_bind]
    by_cases htaken : (wb.sheetIndex? name).isSome
    · simp only [if_pos htaken]
      rfl
    · simp only [if_neg htaken]
      rfl

/-- Making a sheet active in place is making it active, and nothing where that is refused. -/
lemma on_select : (select index).on wb = settle wb ((wb.setActive index).map ((), ·)) := by
  unfold select setActive
  rw [on_get_bind]
  by_cases hlt : index < wb.sheetCount
  · rw [if_pos hlt, if_neg (Nat.not_le_of_lt hlt)]
    rfl
  · rw [if_neg hlt, if_pos (Nat.le_of_not_lt hlt)]
    rfl

/-- Putting a sheet where it stands changes nothing. -/
lemma setSheet_self (hs : wb.sheet? index = some ws) : wb.setSheet index ws = wb := by
  obtain ⟨hlt, hget⟩ := Array.getElem?_eq_some_iff.1 hs
  have hsheets : wb.sheets.setIfInBounds index ws = wb.sheets := by
    rw [← hget, Array.setIfInBounds_def, dif_pos hlt, Array.set_getElem_self]
  rw [setSheet, hsheets]

/-- Work on a sheet that leaves it as it was when it is refused leaves the workbook as it was. -/
lemma on_within {work : InPlace Worksheet Unit} {step : Worksheet → Except Error Worksheet}
    (h : ∀ ws, work.on ws = settle ws ((step ws).map ((), ·))) :
    (within index work).on wb = settle wb ((wb.onSheet index step).map ((), ·)) := by
  unfold within onSheet
  rw [on_get_bind]
  cases hs : wb.sheet? index with
  | none => rfl
  | some ws =>
    dsimp only
    rw [h]
    cases step ws with
    | error why =>
      change (_, wb.setSheet index ws) = (_, wb)
      rw [setSheet_self hs]
    | ok ws' => rfl

end Workbook

namespace Edit

open Workbook

/-- Carries out an edit in place. Where a sheet is added, its place is given. -/
def perform : Edit → InPlace Workbook (Option Nat)
  | add => do
    let wb ← get
    some <$> appendNamed (numberedName wb.freeNumber)
  | addNamed name => some <$> appendNamed name
  | setActive index => (fun _ => none) <$> select index
  | setAt index p cell => (fun _ => none) <$> within index (Worksheet.store p cell)
  | set index address cell => (fun _ => none) <$> within index (Worksheet.storeUnder address cell)

/-- The name of the sheet that an edit adds, if it adds one. -/
def newName? (wb : Workbook) : Edit → Option String
  | add => some (numberedName wb.freeNumber)
  | addNamed name => some name
  | _ => none

variable {wb wb' : Workbook} {name : String} {e : Edit}

/-- Whoever adds a sheet is told the place of the sheet. -/
lemma map_addNamed (wb : Workbook) (name : String) :
    (wb.addNamed name).map (fun (i, wb') => (some i, wb')) =
      ((wb.addNamed name).map (·.2)).map (some wb.sheetCount, ·) := by
  cases h : wb.addNamed name with
  | error why => rfl
  | ok p =>
    obtain ⟨-, -, hplace, -⟩ := addNamed_ok.1 h
    exact congrArg (fun i => Except.ok (some i, p.2)) hplace

/-- Answers that nobody needs can be dropped one after the other. -/
lemma map_unit {wb : Workbook} (r : Except Error Workbook) :
    settle wb ((r.map ((), ·)).map fun (_, wb') => ((none : Option Nat), wb')) =
      settle wb (r.map (none, ·)) := by
  cases r with
  | error why => rfl
  | ok wb' => rfl

/-- An edit in place comes to the same as an edit that makes a new workbook. A refused one leaves
the workbook as it was. -/
theorem on_perform (e : Edit) (wb : Workbook) :
    e.perform.on wb =
      settle wb ((e.run wb).map ((e.newName? wb).map fun _ => wb.sheetCount, ·)) := by
  cases e with
  | add =>
    rw [perform, on_get_bind, on_map_settle on_appendNamed, map_addNamed]
    rfl
  | addNamed name =>
    rw [perform, on_map_settle on_appendNamed, map_addNamed]
    rfl
  | setActive index =>
    rw [perform, on_map_settle on_select, map_unit]
    rfl
  | setAt index p cell =>
    rw [perform, on_map_settle (on_within fun _ => Worksheet.on_store), map_unit]
    rfl
  | set index address cell =>
    rw [perform, on_map_settle (on_within fun _ => Worksheet.on_storeUnder), map_unit]
    rfl

/-- The sheet that an edit adds gets the name that the edit is for. -/
lemma sheetName?_of_newName? (h : e.run wb = .ok wb') (hn : e.newName? wb = some name) :
    wb'.sheetName? wb.sheetCount = some name := by
  have hpush : wb' = wb.push (.empty name) := by
    cases e with
    | add =>
      obtain rfl := Option.some.inj hn
      exact (map_addNamed_ok h).2.2
    | addNamed name' =>
      obtain rfl := Option.some.inj hn
      exact (map_addNamed_ok h).2.2
    | _ => cases hn
  rw [hpush, sheetName?_push, if_pos rfl]
  rfl

end Edit

/-! ## Runs -/

namespace Workbook

variable {wb wb' start : Workbook} {name : String} {i : Nat}

/-- The workbook that a run of edits in place leaves behind, the refused ones among them. -/
def performAll (wb : Workbook) (es : List Edit) : Workbook :=
  es.foldl (fun wb e => (e.perform.on wb).2) wb

/-- Performing an edit in place leaves the workbook after the edit. -/
lemma left_perform (e : Edit) (wb : Workbook) : (e.perform.on wb).2 = wb.after e := by
  rw [Edit.on_perform, after]
  cases e.run wb with
  | error why => rfl
  | ok wb' => rfl

/-- What every edit keeps is kept by any number of edits. -/
lemma performAll_keeps {P : Workbook → Prop} (hstep : ∀ {wb} e, P wb → P (wb.after e)) (h : P wb)
    (es : List Edit) : P (wb.performAll es) := by
  induction es generalizing wb with
  | nil => exact h
  | cons e es ih =>
    rw [performAll, List.foldl_cons, left_perform]
    exact ih (hstep e h)

/-- Edits lead from a workbook that can be reached to another one. -/
lemma Reachable.performAll (h : wb.Reachable) (es : List Edit) : (wb.performAll es).Reachable :=
  performAll_keeps .edit h es

/-- One of the sheets is the active one. Where there is none, the first would be. -/
def HasActive (wb : Workbook) : Prop :=
  wb.active < wb.sheetCount ∨ wb.sheetCount = 0 ∧ wb.active = 0

/-- An active sheet stays there whatever changes. -/
lemma HasActive.change (h : wb.HasActive) (hc : Change wb wb') : wb'.HasActive := by
  cases hc with
  | pushed =>
    left
    change wb.active < (wb.sheets.push _).size
    rw [Array.size_push]
    rcases h with hlt | ⟨-, hzero⟩
    · exact Nat.lt_succ_of_lt hlt
    · exact hzero ▸ Nat.succ_pos _
  | selected hlt => exact .inl hlt
  | stored =>
    unfold HasActive
    rw [sheetCount_setSheet]
    exact h

/-- A sheet keeps its place and its name, whatever is done to the workbook. -/
lemma sheetName?_change (hn : wb.sheetName? i = some name) (hc : Change wb wb') :
    wb'.sheetName? i = some name := by
  cases hc with
  | pushed =>
    rw [sheetName?_push, if_neg, hn]
    rintro rfl
    rw [sheetName?_sheetCount] at hn
    cases hn
  | selected => exact hn
  | stored hs hset => rw [sheetName?_setSheet hs (cell?_setAt hset).1, hn]

/-- The name of a sheet stays its name through all edits. -/
lemma sheetName?_performAll (hn : wb.sheetName? i = some name) (es : List Edit) :
    (wb.performAll es).sheetName? i = some name :=
  performAll_keeps (P := fun wb => wb.sheetName? i = some name)
    (fun e hn => after_keeps sheetName?_change hn e) hn es

/-- What holds of a workbook at every moment: names are looked up, in any case, to the sheets that
have them; every name is legal, and no two are the same; and a sheet is active if there is one. -/
structure Consistent (wb : Workbook) : Prop where
  found : ∀ s i, wb.sheetIndex? s = some i ↔
    ∃ name, wb.sheetName? i = some name ∧ Text.lowercase s = Text.lowercase name
  legal : ∀ i name, wb.sheetName? i = some name → 1 ≤ name.length ∧ name.length ≤ 31 ∧
    ∀ c ∈ name.toList, c ∉ [':', '\\', '/', '?', '*', '[', ']']
  distinct : ∀ i j name name', wb.sheetName? i = some name → wb.sheetName? j = some name' →
    Text.lowercase name = Text.lowercase name' → i = j
  active : wb.HasActive

/-- A sound workbook whose active sheet is there is consistent. -/
lemma Sound.consistent (h : wb.Sound) (hactive : wb.HasActive) : wb.Consistent where
  found s i := by
    refine (h.found _ i).trans (Option.map_eq_some_iff.trans ?_)
    exact exists_congr fun name => and_congr_right fun _ => eq_comm
  legal i name hn := by
    obtain ⟨hne, hle, hforbidden⟩ := SheetName.flaw?_eq_none_iff.1 (h.legal i name hn)
    rw [← String.length_toList]
    exact ⟨List.length_pos_of_ne_nil hne, hle, hforbidden⟩
  distinct _ _ _ _ hi hj he := h.distinct hi hj he
  active := hactive

/-- What a run of edits in place leaves behind of a workbook without sheets or a new one, whichever
of them are refused, is consistent; whatever is done then, its sheets keep their places and names;
and the next edit either is refused and leaves the workbook exactly as it was, or it is carried out
and tells the place of a sheet that it adds. -/
theorem run_consistent (hstart : start = .empty ∨ start = .new) (es : List Edit) :
    let wb := start.performAll es
    wb.Consistent ∧
    (∀ i name, wb.sheetName? i = some name →
      ∀ es', (wb.performAll es').sheetName? i = some name) ∧
    ∀ e : Edit, match e.perform.on wb with
      | (.error why, wb') => e.run wb = .error why ∧ wb' = wb
      | (.ok place, wb') => e.run wb = .ok wb' ∧
        place = (e.newName? wb).map (fun _ => wb.sheetCount) ∧
        ∀ name, e.newName? wb = some name → wb'.sheetName? wb.sheetCount = some name := by
  intro wb
  have hreachable : start.Reachable := by
    rcases hstart with rfl | rfl
    · exact .empty
    · exact .new
  have h : wb.Reachable := hreachable.performAll es
  refine ⟨h.sound.consistent (h.keeps HasActive.change (.inr ⟨rfl, rfl⟩)),
    fun i name hn es' => sheetName?_performAll hn es', fun e => ?_⟩
  rw [Edit.on_perform]
  cases hrun : e.run wb with
  | error why => exact ⟨rfl, rfl⟩
  | ok wb' => exact ⟨rfl, rfl, fun name hn => Edit.sheetName?_of_newName? hrun hn⟩

/-- The Kelvin sign has the lowercase of the letter K, so that a sheet of the one name stands for
the other and no second sheet of that name is added. -/
theorem run_consistent_kelvin :
    let wb := Workbook.empty.performAll [.addNamed "k", .setActive 7, .addNamed "\u212A"]
    wb.Consistent ∧ wb.sheetIndex? "\u212A" = some 0 ∧
      (Edit.addNamed "\u212A").perform.on wb = (.error (.takenSheetName "\u212A"), wb) := by
  intro wb
  have hone : (Workbook.empty.performAll [.addNamed "k"]).sheetName? 0 = some "k" := by
    change ((Edit.addNamed "k").perform.on .empty).2.sheetName? 0 = some "k"
    rw [left_perform, after_addNamed (by decide) Std.HashMap.getElem?_empty]
    rfl
  have hname : wb.sheetName? 0 = some "k" :=
    (run_consistent (.inl rfl) [.addNamed "k"]).2.1 0 "k" hone [.setActive 7, .addNamed "\u212A"]
  obtain ⟨hconsistent, -, -⟩ :=
    run_consistent (.inl rfl) [.addNamed "k", .setActive 7, .addNamed "\u212A"]
  have hfound : wb.sheetIndex? "\u212A" = some 0 :=
    (hconsistent.found _ _).2 ⟨"k", hname, by decide +kernel⟩
  refine ⟨hconsistent, hfound, ?_⟩
  have hadd : wb.addNamed "\u212A" = .error (.takenSheetName "\u212A") := by
    have hlegal : SheetName.flaw? "\u212A" = none := by decide
    rw [addNamed, hlegal, hfound]
    rfl
  rw [Edit.on_perform, Edit.run, hadd]
  rfl

end Workbook

end Precedents
