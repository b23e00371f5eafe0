import Precedents.Proofs.Editing
import Precedents.Proofs.Locality

/-!
# The cells of a workbook after a run of edits

An edit that is carried out changes the cell that it writes and no other (`cell?_run`), and one that
is refused changes nothing. So a cell holds what the last edit that wrote it and was carried out
left there (`cell?_performAll`), the cells of a sheet are listed row by row, and the formulas among
them are listed sheet by sheet (`run_stores`).
-/

namespace Precedents

/-- The cell that an edit writes and what it writes there, if it writes one. -/
def Edit.written? : Edit → Option (Coord × Cell)
  | setAt index p cell => some (⟨index, p.row, p.col⟩, cell)
  | set index address cell =>
    (Address.parse address).toOption.map fun a => (⟨index, a.row, a.col⟩, cell)
  | _ => none

namespace Workbook

/-- The cell at a coordinate, if one is stored there. -/
def cell? (wb : Workbook) (c : Coord) : Option Cell :=
  (wb.sheet? c.sheet).bind (·.cell? c.position)

/-- What is written in a run of edits in place, the refused ones left out. -/
def writes (wb : Workbook) : List Edit → List (Coord × Cell)
  | [] => []
  | e :: es => match e.perform.on wb with
    | (.ok _, wb') => e.written?.toList ++ wb'.writes es
    | (.error _, wb') => wb'.writes es

variable {wb wb' start : Workbook} {index : Nat} {address : String} {a : Address} {p : Position}
variable {cell : Cell} {c : Coord} {e : Edit} {ws : Worksheet} {source : String}

/-! ## One edit -/

/-- Writing under an address is writing at its position. -/
lemma run_set (h : Address.parse address = .ok a) :
    (Edit.set index address cell).run wb = (Edit.setAt index ⟨a.row, a.col⟩ cell).run wb := by
  have hset : (fun ws : Worksheet => ws.set address cell) = (·.setAt ⟨a.row, a.col⟩ cell) := by
    funext ws
    rw [Worksheet.set, h]
    rfl
  exact congrArg (wb.onSheet index) hset

/-- A write by address is a write to the cell that the address names. -/
lemma written?_set (h : Address.parse address = .ok a) :
    (Edit.set index address cell).written? = (Edit.setAt index ⟨a.row, a.col⟩ cell).written? := by
  simp only [Edit.written?, h]
  rfl

/-- A text that is no address is refused. -/
lemma run_set_error {why : Error} (h : Address.parse address = .error why) :
    ∃ why, (Edit.set index address cell).run wb = .error why := by
  rw [Edit.run, Workbook.set, onSheet]
  cases wb.sheet? index with
  | none => exact ⟨_, rfl⟩
  | some ws =>
    refine ⟨why, ?_⟩
    dsimp only
    rw [Worksheet.set, h]
    rfl

/-- The writes that are carried out are those to the grid of a sheet of the workbook. -/
lemma run_setAt_ok (cell : Cell) :
    (∃ wb', (Edit.setAt index p cell).run wb = .ok wb') ↔
      (⟨index, p.row, p.col⟩ : Coord).LiesIn wb := by
  constructor
  · rintro ⟨wb', h⟩
    obtain ⟨ws, ws', hs, hset, -⟩ := onSheet_ok h
    obtain ⟨-, hp, -⟩ := cell?_setAt hset
    exact ⟨(Array.getElem?_eq_some_iff.1 hs).1, hp⟩
  · intro h
    exact exists_setAt h cell

/-- A write to a sheet changes its cell, and no other. -/
lemma cell?_setSheet (hs : wb.sheet? index = some ws) {ws' : Worksheet}
    (hset : ws.setAt p cell = .ok ws') (c : Coord) :
    (wb.setSheet index ws').cell? c =
      if c = ⟨index, p.row, p.col⟩ then (some cell).filter (· ≠ .blank) else wb.cell? c := by
  obtain ⟨-, -, hcells⟩ := cell?_setAt hset
  rw [cell?, cell?, sheet?_setSheet hs]
  by_cases hsheet : c.sheet = index
  · rw [if_pos hsheet, hsheet, hs, Option.bind_some, Option.bind_some, hcells]
    have hiff : c.position = p ↔ c = ⟨index, p.row, p.col⟩ :=
      ⟨fun hp => Coord.ext_position hsheet hp, fun hc => congrArg Coord.position hc⟩
    simp only [hiff]
    cases cell <;> rfl
  · rw [if_neg hsheet, if_neg fun hc => hsheet (congrArg Coord.sheet hc)]

/-- A new sheet stores no cells. -/
lemma cell?_push (wb : Workbook) (name : String) (c : Coord) :
    (wb.push (.empty name)).cell? c = wb.cell? c := by
  rw [cell?, cell?, sheet?_push]
  split
  case isTrue h =>
    have hnone : wb.sheet? wb.sheetCount = none := Array.getElem?_size
    rw [h, hnone]
    exact Std.ExtTreeMap.getElem?_empty
  case isFalse => rfl

/-- An edit that is carried out changes the cell that it writes and no other. -/
lemma cell?_run (h : e.run wb = .ok wb') (c : Coord) :
    wb'.cell? c =
      (e.written?.toList.lookup c).elim (wb.cell? c) fun cell =>
        (some cell).filter (· ≠ .blank) := by
  -- A write by position, to which a write by address comes down.
  have hsetAt : ∀ {index p cell}, (Edit.setAt index p cell).run wb = .ok wb' →
      wb'.cell? c = ((Edit.setAt index p cell).written?.toList.lookup c).elim (wb.cell? c)
        fun cell => (some cell).filter (· ≠ .blank) := by
    intro index p cell h
    obtain ⟨ws, ws', hs, hset, rfl⟩ := onSheet_ok h
    rw [cell?_setSheet hs hset]
    by_cases hc : c = ⟨index, p.row, p.col⟩
    · simp [Edit.written?, hc]
    · simp [Edit.written?, hc, List.lookup, beq_false_of_ne hc]
  cases e with
  | add =>
    obtain ⟨-, -, rfl⟩ := map_addNamed_ok h
    exact cell?_push wb _ c
  | addNamed name =>
    obtain ⟨-, -, rfl⟩ := map_addNamed_ok h
    exact cell?_push wb _ c
  | setActive index =>
    simp only [Edit.run, setActive] at h
    split at h
    case isTrue =>
      obtain rfl := Except.ok.inj h
      rfl
    case isFalse => cases h
  | setAt index p cell => exact hsetAt h
  | set index address cell =>
    cases ha : Address.parse address with
    | error why =>
      have hrefused : ∃ why, (Edit.set index address cell).run wb = .error why := run_set_error ha
      obtain ⟨why, hrefused⟩ := hrefused
      rw [hrefused] at h
      cases h
    | ok a =>
      rw [written?_set ha]
      exact hsetAt ((run_set ha).symm.trans h)

/-! ## Runs -/

/-- After a run a cell holds what was last written there, and what it held before where nothing
was. -/
lemma cell?_performAll (wb : Workbook) (es : List Edit) (c : Coord) :
    (wb.performAll es).cell? c = ((wb.writes es).reverse.lookup c).elim (wb.cell? c)
      fun cell => (some cell).filter (· ≠ .blank) := by
  induction es generalizing wb with
  | nil => rfl
  | cons e es ih =>
    rw [performAll, List.foldl_cons, writes]
    change (((e.perform.on wb).2).performAll es).cell? c = _
    rw [ih, Edit.on_perform]
    cases hrun : e.run wb with
    | error why => rfl
    | ok wb' =>
      have hone : e.written?.toList.reverse = e.written?.toList := by
        cases e.written? <;> rfl
      change ((wb'.writes es).reverse.lookup c).elim (wb'.cell? c) _ =
        ((e.written?.toList ++ wb'.writes es).reverse.lookup c).elim _ _
      rw [List.reverse_append, List.lookup_append, hone, cell?_run hrun]
      cases (wb'.writes es).reverse.lookup c <;> rfl

/-- A cell that is not stored is blank. -/
lemma content_eq_getD (wb : Workbook) (c : Coord) : wb.content c = (wb.cell? c).getD .blank := by
  rw [content, cell?]
  cases wb.sheet? c.sheet <;> rfl

/-- A formula is stored if it is the content. -/
lemma cell?_eq_formula : wb.cell? c = some (.formula source) ↔ wb.content c = .formula source := by
  rw [content_eq_formula, cell?, Option.bind_eq_some_iff]

/-- A cell that is stored lies in the workbook. -/
lemma Sound.liesIn_of_cell (h : wb.Sound) (hc : wb.cell? c = some cell) : c.LiesIn wb := by
  obtain ⟨ws, hs, hcell⟩ := Option.bind_eq_some_iff.1 hc
  exact ⟨(Array.getElem?_eq_some_iff.1 hs).1, h.inGrid _ _ _ _ hs hcell⟩

/-- What holds of the cells of a workbook after some writes, the first ones first: each holds what
was last written there, unless that was a blank; all lie in the workbook; those of a sheet are
listed row by row and counted; and the formulas among them are listed in the order of their places,
each once, sheet by sheet. -/
structure Stores (wb : Workbook) (writes : List (Coord × Cell)) : Prop where
  last : ∀ c, wb.cell? c = (writes.reverse.lookup c).filter (· ≠ .blank)
  inGrid : ∀ c cell, wb.cell? c = some cell →
    c.sheet < wb.sheetCount ∧ c.row < 1048576 ∧ c.col < 16384 ∧ cell ≠ .blank
  listed : ∀ i ws, wb.sheet? i = some ws → ∀ p cell,
    (p, cell) ∈ ws.toList ↔ wb.cell? ⟨i, p.row, p.col⟩ = some cell
  ordered : ∀ i ws, wb.sheet? i = some ws →
    ws.toList.Pairwise fun a b => a.1.row < b.1.row ∨ a.1.row = b.1.row ∧ a.1.col < b.1.col
  counted : ∀ i ws, wb.sheet? i = some ws → ws.cellCount = ws.toList.length
  formulas : ∀ c source, wb.formulas.count (c, source) =
    if wb.cell? c = some (.formula source) then 1 else 0
  formulasOrdered : wb.formulas.Pairwise fun a b => a.1 < b.1
  formulasJoined : wb.formulas = (List.range wb.sheetCount).flatMap wb.sheetFormulas

/-- A workbook in which each cell is the last write to it stores the writes. -/
lemma Sound.stores (h : wb.Sound) {writes : List (Coord × Cell)}
    (hlast : ∀ c, wb.cell? c = (writes.reverse.lookup c).filter (· ≠ .blank)) :
    wb.Stores writes where
  last := hlast
  inGrid c cell hc := by
    obtain ⟨hsheet, hrow, hcol⟩ := h.liesIn_of_cell hc
    rw [hlast, Option.filter_eq_some_iff] at hc
    exact ⟨hsheet, hrow, hcol, of_decide_eq_true hc.2⟩
  listed i ws hs p cell := by
    rw [cell?, hs, Worksheet.toList]
    exact Std.ExtTreeMap.mem_toList_iff_getElem?_eq_some
  ordered i ws _ := Std.ExtTreeMap.ordered_keys_toList.imp Position.lt_iff.1
  counted i ws _ := Std.ExtTreeMap.length_toList.symm
  formulas c source := by
    have hnodup : wb.formulas.Nodup :=
      (pairwise_formulas wb).imp fun hlt he => Coord.ne_of_lt hlt (congrArg Prod.fst he)
    simp only [hnodup.count, mem_formulas, cell?_eq_formula]
  formulasOrdered := pairwise_formulas wb
  formulasJoined := rfl

/-- After any run of edits in place, some of which are refused, a workbook that was empty or new
stores what was written in the run. A write is carried out exactly on the grid of a sheet of the
workbook; one under an address is the write at its position, and refused where the text is no
address; and whatever is refused leaves the workbook as it was. -/
theorem run_stores (hstart : start = .empty ∨ start = .new) (es : List Edit) :
    let wb := start.performAll es
    wb.Stores (start.writes es) ∧
    (∀ index p cell, (∃ x, ((Edit.setAt index p cell).perform.on wb).1 = .ok x) ↔
      index < wb.sheetCount ∧ p.row < 1048576 ∧ p.col < 16384) ∧
    (∀ index address cell, match Address.parse address with
      | .ok a => (Edit.set index address cell).perform.on wb =
        (Edit.setAt index ⟨a.row, a.col⟩ cell).perform.on wb
      | .error _ => ∃ why, (Edit.set index address cell).perform.on wb = (.error why, wb)) ∧
    ∀ (e : Edit) why, (e.perform.on wb).1 = .error why → (e.perform.on wb).2 = wb := by
  intro wb
  have hreachable : start.Reachable := by
    rcases hstart with rfl | rfl
    · exact .empty
    · exact .new
  -- The writes of the run decide alone, since nothing is stored before it.
  have hnothing : ∀ c, start.cell? c = none := by
    rcases hstart with rfl | rfl
    · exact fun c => rfl
    · exact fun c => cell?_push .empty "Sheet1" c
  refine ⟨(hreachable.performAll es).sound.stores fun c => ?_, ?_, ?_, ?_⟩
  · rw [cell?_performAll, hnothing]
    cases (start.writes es).reverse.lookup c <;> rfl
  · intro index p cell
    refine Iff.trans ?_ (run_setAt_ok cell)
    rw [Edit.on_perform]
    cases (Edit.setAt index p cell).run wb with
    | error why => exact ⟨nofun, nofun⟩
    | ok wb' => exact ⟨fun _ => ⟨wb', rfl⟩, fun _ => ⟨_, rfl⟩⟩
  · intro index address cell
    cases ha : Address.parse address with
    | ok a =>
      dsimp only
      rw [Edit.on_perform, Edit.on_perform, run_set ha]
      rfl
    | error why =>
      have hrefused : ∃ why, (Edit.set index address cell).run wb = .error why := run_set_error ha
      obtain ⟨why, hrefused⟩ := hrefused
      dsimp only
      rw [Edit.on_perform, hrefused]
      exact ⟨why, rfl⟩
  · intro e why h
    rw [Edit.on_perform] at h ⊢
    cases hrun : e.run wb with
    | error why => rfl
    | ok wb' =>
      rw [hrun] at h
      cases h

/-- A cell is written under its address and overwritten at its position, and another one is cleared,
between writes that are refused: to a sheet that there is not and below the grid. -/
theorem run_stores_overwritten :
    let es := [.set 0 "$B$2" (.text "old"), .set 0 "A1" (.boolean true), .set 1 "B2" (.text "lost"),
      .setAt 0 ⟨1, 1⟩ (.formula "=A1"), .setAt 0 ⟨1048576, 1⟩ (.text "low"), .set 0 "A1" .blank]
    let wb := Workbook.new.performAll es
    Workbook.new.writes es = [(⟨0, 1, 1⟩, .text "old"), (⟨0, 0, 0⟩, .boolean true),
      (⟨0, 1, 1⟩, .formula "=A1"), (⟨0, 0, 0⟩, .blank)] ∧
    wb.Stores (Workbook.new.writes es) ∧ wb.cell? ⟨0, 1, 1⟩ = some (.formula "=A1") ∧
    wb.cell? ⟨0, 0, 0⟩ = none ∧ wb.formulas.count (⟨0, 1, 1⟩, "=A1") = 1 := by
  intro es wb
  have hwrites : Workbook.new.writes es = [(⟨0, 1, 1⟩, .text "old"), (⟨0, 0, 0⟩, .boolean true),
      (⟨0, 1, 1⟩, .formula "=A1"), (⟨0, 0, 0⟩, .blank)] := by decide +kernel
  have hstores : wb.Stores (Workbook.new.writes es) := (run_stores (.inr rfl) es).1
  have hformula : wb.cell? ⟨0, 1, 1⟩ = some (.formula "=A1") := by
    rw [hstores.last, hwrites]
    decide
  refine ⟨hwrites, hstores, hformula, ?_, ?_⟩
  · rw [hstores.last, hwrites]
    decide
  · rw [hstores.formulas, if_pos hformula]

end Workbook

end Precedents
