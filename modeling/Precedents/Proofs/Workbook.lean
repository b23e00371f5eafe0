import Std.Data.ExtTreeMap.Lemmas
import Std.Data.HashMap.Lemmas
import Precedents.Workbook
import Precedents.Proofs.Coord
import Precedents.Proofs.SheetName

/-!
# Workbooks in use

A workbook is reached by edits from one without sheets or with the sheet that a user starts with
(`Reachable`). An edit that is carried out appends a sheet, selects one or stores a cell (`Change`).
What each of these preserves is gathered in `Sound`: the index finds the sheets by their names and
nothing else, every name is legal, and no cell is stored off the grid. From it follows
that two cells never have the same name (`Sound.qualifiedName_inj`) and that the formulas are listed
in the order of their places, each once (`pairwise_formulas`, `mem_formulas`).
-/

namespace Precedents

/-- What a user may do to a workbook. -/
inductive Edit where
  | add
  | addNamed (name : String)
  | setActive (index : Nat)
  | setAt (index : Nat) (p : Position) (cell : Cell)
  | set (index : Nat) (address : String) (cell : Cell)

/-- The outcome of an edit. -/
def Edit.run (wb : Workbook) : Edit → Except Error Workbook
  | add => wb.add.map (·.2)
  | addNamed name => (wb.addNamed name).map (·.2)
  | setActive index => wb.setActive index
  | setAt index p cell => wb.setAt index p cell
  | set index address cell => wb.set index address cell

/-- The workbook after an edit. An edit that is refused changes nothing. -/
def Workbook.after (wb : Workbook) (e : Edit) : Workbook :=
  match e.run wb with
  | .ok wb' => wb'
  | .error _ => wb

namespace Workbook

/-- The workbooks that edits lead to. -/
inductive Reachable : Workbook → Prop where
  | empty : Reachable .empty
  | new : Reachable .new
  | edit {wb : Workbook} (e : Edit) : Reachable wb → Reachable (wb.after e)

/-- What every edit preserves. -/
structure Sound (wb : Workbook) : Prop where
  found : ∀ key i, wb.byName[key]? = some i ↔ (wb.sheetName? i).map SheetName.fold = some key
  legal : ∀ i name, wb.sheetName? i = some name → SheetName.flaw? name = none
  inGrid : ∀ i ws p cell, wb.sheet? i = some ws → ws.cell? p = some cell →
    p.row < rowLimit ∧ p.col < columnLimit

variable {wb wb' : Workbook} {i j index : Nat} {name : String} {ws ws' : Worksheet} {p : Position}
variable {cell : Cell} {c d : Coord} {source : String}

/-! ## Each edit -/

/-- A new sheet stands behind the others. -/
lemma sheet?_push (wb : Workbook) (ws : Worksheet) (i : Nat) :
    (wb.push ws).sheet? i = if i = wb.sheetCount then some ws else wb.sheet? i :=
  Array.getElem?_push

/-- The name of a new sheet stands behind the others. -/
lemma sheetName?_push (wb : Workbook) (ws : Worksheet) (i : Nat) :
    (wb.push ws).sheetName? i = if i = wb.sheetCount then some ws.name else wb.sheetName? i := by
  rw [sheetName?, sheet?_push]
  split
  · rfl
  · rfl

/-- There is no name behind the last sheet. -/
lemma sheetName?_sheetCount (wb : Workbook) : wb.sheetName? wb.sheetCount = none := by
  rw [sheetName?, sheet?, sheetCount, Array.getElem?_size]
  rfl

/-- A new name is found up to case, and the others as before. -/
lemma sheetIndex?_push (wb : Workbook) (name n : String) :
    (wb.push (.empty name)).sheetIndex? n =
      if Text.lowercase name = Text.lowercase n then some wb.sheetCount else wb.sheetIndex? n := by
  change (wb.byName.insert (Text.lowercase name) wb.sheetCount)[Text.lowercase n]? = _
  rw [Std.HashMap.getElem?_insert]
  simp only [beq_iff_eq]
  rfl

/-- In a new workbook only its one sheet is found. -/
lemma sheetIndex?_new (n : String) :
    new.sheetIndex? n = if Text.lowercase n = "sheet1" then some 0 else none := by
  have hname : Text.lowercase "Sheet1" = "sheet1" := by decide +kernel
  have hempty : Workbook.empty.sheetIndex? n = none := Std.HashMap.getElem?_empty
  rw [new, sheetIndex?_push, hname, hempty]
  simp only [eq_comm (a := "sheet1")]
  rfl

/-- A new sheet with a legal name that is free keeps a workbook sound. -/
lemma Sound.push (h : wb.Sound) (hlegal : SheetName.flaw? name = none)
    (hfree : wb.byName[SheetName.fold name]? = none) : (wb.push (.empty name)).Sound where
  found := by
    intro key i
    -- No name has been looked up to the place that the new sheet takes.
    have hcount : wb.byName[key]? ≠ some wb.sheetCount := by
      intro hk
      have hk := (h.found key _).1 hk
      rw [sheetName?_sheetCount] at hk
      exact absurd hk (by simp)
    rw [sheetName?_push]
    change (wb.byName.insert (SheetName.fold name) wb.sheetCount)[key]? = some i ↔ _
    rw [Std.HashMap.getElem?_insert]
    by_cases hi : i = wb.sheetCount
    · subst hi
      rw [if_pos rfl]
      by_cases hk : SheetName.fold name = key
      · simp [hk, Worksheet.empty]
      · simp [hk, hcount, Worksheet.empty]
    · rw [if_neg hi]
      by_cases hk : SheetName.fold name = key
      · subst hk
        rw [← h.found, hfree]
        simp [Ne.symm hi]
      · rw [← h.found, if_neg (by simpa using hk)]
  legal := by
    intro i n hn
    rw [sheetName?_push] at hn
    split at hn
    · obtain rfl := Option.some.inj hn
      exact hlegal
    · exact h.legal i n hn
  inGrid := by
    intro i ws p cell hs hc
    rw [sheet?_push] at hs
    split at hs
    · obtain rfl := Option.some.inj hs
      exact absurd hc (by simp [Worksheet.empty, Worksheet.cell?])
    · exact h.inGrid i ws p cell hs hc

lemma exists_ok_of_map {ε α β : Type} {x : Except ε α} {f : α → β} {b : β}
    (h : x.map f = .ok b) : ∃ a, x = .ok a ∧ f a = b := by
  cases x with
  | error e => cases h
  | ok a => exact ⟨a, rfl, Except.ok.inj h⟩

/-- When a sheet is added under a given name, and what the workbook is then. -/
lemma addNamed_ok :
    wb.addNamed name = .ok (i, wb') ↔ SheetName.flaw? name = none ∧ wb.sheetIndex? name = none ∧
      i = wb.sheetCount ∧ wb' = wb.push (.empty name) := by
  unfold addNamed
  cases SheetName.flaw? name with
  | some flaw => exact ⟨nofun, nofun⟩
  | none =>
    cases wb.sheetIndex? name with
    | some j => exact ⟨nofun, nofun⟩
    | none =>
      constructor
      · intro h
        obtain ⟨rfl, rfl⟩ := Prod.mk.inj (Except.ok.inj h)
        exact ⟨rfl, rfl, rfl, rfl⟩
      · rintro ⟨-, -, rfl, rfl⟩
        rfl

/-- A sheet that is added has a legal and new name, and stands behind the others. -/
lemma map_addNamed_ok (h : (wb.addNamed name).map (·.2) = .ok wb') :
    SheetName.flaw? name = none ∧ wb.sheetIndex? name = none ∧ wb' = wb.push (.empty name) := by
  obtain ⟨⟨i, wb''⟩, hadd, rfl⟩ := exists_ok_of_map h
  obtain ⟨hlegal, hfree, -, hpush⟩ := addNamed_ok.1 hadd
  exact ⟨hlegal, hfree, hpush⟩

/-- A sheet with a legal and new name is added behind the others. -/
lemma after_addNamed (hlegal : SheetName.flaw? name = none)
    (hfree : wb.sheetIndex? name = none) :
    wb.after (.addNamed name) = wb.push (.empty name) := by
  have hadd := addNamed_ok.2 ⟨hlegal, hfree, rfl, rfl⟩
  simp only [after, Edit.run, hadd, Except.map]

/-- A stored cell is found where it was stored, and all others where they were. -/
lemma cell?_setAt (h : ws.setAt p cell = .ok ws') :
    ws'.name = ws.name ∧ (p.row < rowLimit ∧ p.col < columnLimit) ∧
      ∀ q, ws'.cell? q =
        if q = p then (if cell.isBlank then none else some cell) else ws.cell? q := by
  unfold Worksheet.setAt at h
  split at h
  case isTrue => cases h
  case isFalse hrow =>
    split at h
    case isTrue => cases h
    case isFalse hcol =>
      have hin : p.row < rowLimit ∧ p.col < columnLimit :=
        ⟨Nat.lt_of_not_le hrow, Nat.lt_of_not_le hcol⟩
      -- The map compares positions, and equal means the same.
      have hcompare : ∀ q, compare p q = .eq ↔ q = p := fun q =>
        Std.LawfulEqOrd.compare_eq_iff_eq.trans eq_comm
      split at h
      case isTrue hblank =>
        obtain rfl := Except.ok.inj h
        refine ⟨rfl, hin, fun q => ?_⟩
        change (ws.cells.erase p)[q]? = _
        simp only [Std.ExtTreeMap.getElem?_erase, hcompare, hblank, if_true]
        rfl
      case isFalse hblank =>
        obtain rfl := Except.ok.inj h
        refine ⟨rfl, hin, fun q => ?_⟩
        change (ws.cells.insert p cell)[q]? = _
        simp only [Std.ExtTreeMap.getElem?_insert, hcompare, hblank, Bool.false_eq_true, if_false]
        rfl

/-- Every cell of the grid can be stored. -/
lemma exists_sheet_setAt (ws : Worksheet) (hrow : p.row < rowLimit) (hcol : p.col < columnLimit)
    (cell : Cell) : ∃ ws', ws.setAt p cell = .ok ws' := by
  rw [Worksheet.setAt, if_neg (Nat.not_le_of_lt hrow), if_neg (Nat.not_le_of_lt hcol)]
  split
  · exact ⟨_, rfl⟩
  · exact ⟨_, rfl⟩

/-- Replacing a sheet changes that sheet and no other. -/
lemma sheet?_setSheet (hs : wb.sheet? index = some ws) (i : Nat) :
    (wb.setSheet index ws').sheet? i = if i = index then some ws' else wb.sheet? i := by
  obtain ⟨hlt, -⟩ := Array.getElem?_eq_some_iff.1 hs
  change (wb.sheets.setIfInBounds index ws')[i]? = _
  rw [Array.getElem?_setIfInBounds]
  by_cases hi : index = i
  · subst hi
    rw [if_pos rfl, if_pos rfl, if_pos hlt]
  · rw [if_neg hi, if_neg (Ne.symm hi)]
    rfl

/-- Replacing a sheet by one of its name leaves all names. -/
lemma sheetName?_setSheet (hs : wb.sheet? index = some ws) (hname : ws'.name = ws.name) :
    (wb.setSheet index ws').sheetName? = wb.sheetName? := by
  funext i
  rw [sheetName?, sheet?_setSheet hs]
  split
  case isTrue hi => rw [hi, sheetName?, hs, Option.map_some, Option.map_some, hname]
  case isFalse => rfl

lemma sheetCount_setSheet (wb : Workbook) (index : Nat) (ws : Worksheet) :
    (wb.setSheet index ws).sheetCount = wb.sheetCount :=
  Array.size_setIfInBounds

/-- A sheet that keeps its name and its grid may be changed. -/
lemma Sound.setSheet (h : wb.Sound) (hs : wb.sheet? index = some ws) (hname : ws'.name = ws.name)
    (hin : ∀ p cell, ws'.cell? p = some cell → p.row < rowLimit ∧ p.col < columnLimit) :
    (wb.setSheet index ws').Sound := by
  have hnames := sheetName?_setSheet hs hname
  refine ⟨?_, ?_, ?_⟩
  · rw [hnames]
    exact h.found
  · rw [hnames]
    exact h.legal
  · intro i ws'' p cell hs' hc
    rw [sheet?_setSheet hs] at hs'
    split at hs'
    · obtain rfl := Option.some.inj hs'
      exact hin p cell hc
    · exact h.inGrid i ws'' p cell hs' hc

/-- A change of a sheet that succeeds is one of a sheet that is there. -/
lemma onSheet_ok {change : Worksheet → Except Error Worksheet}
    (h : wb.onSheet index change = .ok wb') :
    ∃ ws ws', wb.sheet? index = some ws ∧ change ws = .ok ws' ∧ wb' = wb.setSheet index ws' := by
  unfold onSheet at h
  split at h
  case h_1 => cases h
  case h_2 ws hs =>
    cases hc : change ws with
    | error e =>
      rw [hc] at h
      cases h
    | ok ws' =>
      rw [hc] at h
      exact ⟨ws, ws', hs, hc, (Except.ok.inj h).symm⟩

/-- A write by address is a write to a position. -/
lemma setAt_of_set {address : String} (h : ws.set address cell = .ok ws') :
    ∃ p, ws.setAt p cell = .ok ws' := by
  unfold Worksheet.set at h
  cases ha : Address.parse address with
  | error e =>
    rw [ha] at h
    cases h
  | ok a =>
    rw [ha] at h
    exact ⟨⟨a.row, a.col⟩, h⟩

/-- A write to a sheet leaves the workbook sound. -/
lemma Sound.setAt (h : wb.Sound) (hs : wb.sheet? index = some ws)
    (hset : ws.setAt p cell = .ok ws') : (wb.setSheet index ws').Sound := by
  obtain ⟨hname, hp, hcells⟩ := cell?_setAt hset
  apply h.setSheet hs hname
  intro q cell' hc
  by_cases hq : q = p
  · exact hq ▸ hp
  · rw [hcells, if_neg hq] at hc
    exact h.inGrid index ws q cell' hs hc

/-- What an edit that is carried out does to a workbook. -/
inductive Change (wb : Workbook) : Workbook → Prop where
  | pushed {name : String} (hlegal : SheetName.flaw? name = none)
      (hfree : wb.sheetIndex? name = none) : Change wb (wb.push (.empty name))
  | selected {index : Nat} (hlt : index < wb.sheetCount) : Change wb { wb with active := index }
  | stored {index : Nat} {p : Position} {cell : Cell} {ws ws' : Worksheet}
      (hs : wb.sheet? index = some ws) (hset : ws.setAt p cell = .ok ws') :
      Change wb (wb.setSheet index ws')

/-- An edit that succeeds is a change. -/
lemma change_of_run {e : Edit} (h : e.run wb = .ok wb') : Change wb wb' := by
  cases e with
  | add =>
    obtain ⟨hlegal, hfree, rfl⟩ := map_addNamed_ok h
    exact .pushed hlegal hfree
  | addNamed name =>
    obtain ⟨hlegal, hfree, rfl⟩ := map_addNamed_ok h
    exact .pushed hlegal hfree
  | setActive i =>
    simp only [Edit.run, setActive] at h
    split at h
    case isTrue hlt =>
      obtain rfl := Except.ok.inj h
      exact .selected hlt
    case isFalse => cases h
  | setAt i p cell =>
    obtain ⟨ws, ws', hs, hset, rfl⟩ := onSheet_ok h
    exact .stored hs hset
  | set i address cell =>
    obtain ⟨ws, ws', hs, hset, rfl⟩ := onSheet_ok h
    obtain ⟨p, hp⟩ := setAt_of_set hset
    exact .stored hs hp

/-- What every change keeps is kept by an edit, be it carried out or refused. -/
lemma after_keeps {P : Workbook → Prop} (hstep : ∀ {wb wb'}, P wb → Change wb wb' → P wb')
    (h : P wb) (e : Edit) : P (wb.after e) := by
  unfold after
  split
  case h_1 wb' he => exact hstep h (change_of_run he)
  case h_2 => exact h

/-- The new workbook is one sheet added to none. -/
lemma change_new : Change .empty .new := .pushed (by decide) Std.HashMap.getElem?_empty

/-- What holds of the workbook without sheets and is kept by every change holds of every workbook
that edits lead to. -/
lemma Reachable.keeps {P : Workbook → Prop} (hstep : ∀ {wb wb'}, P wb → Change wb wb' → P wb')
    (hempty : P .empty) (h : wb.Reachable) : P wb := by
  induction h with
  | empty => exact hempty
  | new => exact hstep hempty change_new
  | edit e _ ih => exact after_keeps hstep ih e

/-- Every change keeps a workbook sound. -/
lemma Sound.change (h : wb.Sound) (hc : Change wb wb') : wb'.Sound := by
  cases hc with
  | pushed hlegal hfree => exact h.push hlegal hfree
  | selected => exact ⟨h.found, h.legal, h.inGrid⟩
  | stored hs hset => exact h.setAt hs hset

lemma Sound.empty : Workbook.empty.Sound where
  found := by simp [Workbook.empty, sheetName?, sheet?]
  legal := by simp [Workbook.empty, sheetName?, sheet?]
  inGrid := by simp [Workbook.empty, sheet?]

/-- Every workbook that edits lead to is sound. -/
theorem Reachable.sound (h : wb.Reachable) : wb.Sound := h.keeps Sound.change .empty

/-! ## Names -/

/-- A name is looked up to the place of the sheet that has it. -/
lemma Sound.sheetIndex? (h : wb.Sound) (hn : wb.sheetName? i = some name) :
    wb.sheetIndex? name = some i := by
  apply (h.found _ i).2
  rw [hn]
  rfl

/-- Names that differ only in case are names of the same sheet. -/
lemma Sound.distinct (h : wb.Sound) {name' : String} (hi : wb.sheetName? i = some name)
    (hj : wb.sheetName? j = some name') (he : SheetName.fold name = SheetName.fold name') :
    i = j := by
  have hi := h.sheetIndex? hi
  have hj := h.sheetIndex? hj
  rw [Workbook.sheetIndex?, he] at hi
  exact Option.some.inj (hi.symm.trans hj)

/-- Every sheet has a name. -/
lemma exists_sheetName (h : i < wb.sheetCount) : ∃ name, wb.sheetName? i = some name :=
  ⟨_, congrArg (Option.map Worksheet.name) (Array.getElem?_eq_getElem h)⟩

/-- A name that is found is that of a sheet that is there. -/
lemma Sound.lt_sheetCount (h : wb.Sound) (hi : wb.sheetIndex? name = some i) :
    i < wb.sheetCount := by
  have hn := (h.found _ i).1 hi
  obtain ⟨n, hn, -⟩ := Option.map_eq_some_iff.1 hn
  obtain ⟨ws, hs, -⟩ := Option.map_eq_some_iff.1 hn
  exact (Array.getElem?_eq_some_iff.1 hs).1

/-- A quoted name begins with an apostrophe, the text of a coordinate does not. -/
lemma qualify_ne_render (name : String) (c d : Coord) : SheetName.qualify name c ≠ d.render := by
  intro he
  have he := congrArg String.toList he
  rw [SheetName.toList_qualify, Coord.toList_render] at he
  exact absurd (List.cons.inj he).1 (by decide)

/-- No two cells have the same name, on the sheets of the workbook or off them. -/
theorem Sound.qualifiedName_inj (h : wb.Sound) (he : wb.qualifiedName c = wb.qualifiedName d) :
    c = d := by
  unfold qualifiedName at he
  cases hc : wb.sheetName? c.sheet with
  | none =>
    cases hd : wb.sheetName? d.sheet with
    | none =>
      rw [hc, hd] at he
      exact Coord.render_inj he
    | some name =>
      rw [hc, hd] at he
      exact absurd he.symm (qualify_ne_render name d c)
  | some name =>
    cases hd : wb.sheetName? d.sheet with
    | none =>
      rw [hc, hd] at he
      exact absurd he (qualify_ne_render name c d)
    | some name' =>
      rw [hc, hd] at he
      obtain ⟨rfl, haddress⟩ := SheetName.qualify_inj he
      have hsheet := (h.sheetIndex? hc).symm.trans (h.sheetIndex? hd)
      exact Coord.ext_address (Option.some.inj hsheet) haddress

/-- The name of a node tells its cell: no two cells have the same name, on the sheets of the
workbook or off them; a cell of a sheet is never named like one whose sheet there is not; and
whatever two sheets are called, the same name means the same sheet name, row and column. -/
theorem qualifiedName_identifies (h : wb.Reachable) :
    (∀ c d, wb.qualifiedName c = wb.qualifiedName d → c = d) ∧
    (∀ c d : Coord, c.sheet < wb.sheetCount → wb.qualifiedName c ≠ d.render) ∧
    ∀ name name' c d, SheetName.qualify name c = SheetName.qualify name' d →
      name = name' ∧ c.row = d.row ∧ c.col = d.col := by
  refine ⟨fun _ _ he => h.sound.qualifiedName_inj he, ?_, ?_⟩
  · intro c d hc
    obtain ⟨name, hn⟩ := exists_sheetName hc
    rw [qualifiedName, hn]
    exact qualify_ne_render name c d
  · intro name name' c d he
    obtain ⟨hname, haddress⟩ := SheetName.qualify_inj he
    obtain ⟨hrow, hcol, -⟩ := Address.mk.inj haddress
    exact ⟨hname, hrow, hcol⟩

/-- A sheet may be called like a cell whose sheet there is not, with an apostrophe in the name, and
its cells are still told apart from all others, also from those off the grid. -/
theorem qualifiedName_identifies_lookalike :
    let wb := Workbook.empty.after (.addNamed "#1'!XFD1")
    wb.Reachable ∧ wb.qualifiedName ⟨0, 0, 0⟩ = "'#1''!XFD1'!A1" ∧
      (∀ d : Coord, wb.qualifiedName ⟨0, 0, 0⟩ ≠ d.render) ∧
      ∀ d, wb.qualifiedName ⟨1, 4294967294, 65535⟩ = wb.qualifiedName d →
        d = ⟨1, 4294967294, 65535⟩ := by
  intro wb
  have h : wb.Reachable := .edit _ .empty
  have hwb : wb = Workbook.empty.push (.empty "#1'!XFD1") :=
    after_addNamed (by decide) Std.HashMap.getElem?_empty
  have hname : wb.sheetName? 0 = some "#1'!XFD1" := by rw [hwb]; rfl
  have hcount : 0 < wb.sheetCount := by rw [hwb]; decide
  obtain ⟨hinj, hfallback, -⟩ := qualifiedName_identifies h
  refine ⟨h, ?_, fun d => hfallback _ d hcount, fun d he => (hinj _ d he).symm⟩
  rw [qualifiedName, hname]
  decide +kernel

/-! ## Formulas -/

/-- A cell has a formula if it is one. -/
lemma formula?_eq_some {cell : Cell} : cell.formula? = some source ↔ cell = .formula source := by
  cases cell with
  | formula s => simp [Cell.formula?]
  | _ => simp [Cell.formula?]

/-- A sheet lists the formulas that it stores. -/
lemma mem_formulas_worksheet :
    (p, source) ∈ ws.formulas ↔ ws.cell? p = some (.formula source) := by
  rw [Worksheet.formulas, List.mem_filterMap, Worksheet.cell?]
  constructor
  · rintro ⟨⟨q, cell⟩, hmem, hsome⟩
    obtain ⟨s, hs, he⟩ := Option.map_eq_some_iff.1 hsome
    obtain ⟨rfl, rfl⟩ := Prod.mk.inj he
    rw [formula?_eq_some] at hs
    exact hs ▸ Std.ExtTreeMap.mem_toList_iff_getElem?_eq_some.1 hmem
  · intro hcell
    exact ⟨(p, .formula source), Std.ExtTreeMap.mem_toList_iff_getElem?_eq_some.2 hcell, rfl⟩

/-- The content is a formula if the sheet of the cell stores it. -/
lemma content_eq_formula :
    wb.content c = .formula source ↔
      ∃ ws, wb.sheet? c.sheet = some ws ∧ ws.cell? c.position = some (.formula source) := by
  unfold content Worksheet.content
  cases wb.sheet? c.sheet with
  | none => simp
  | some ws =>
    cases hcell : ws.cell? c.position with
    | none => simp [hcell]
    | some cell => simp [hcell]

/-- The formulas of a sheet are the contents of its cells. -/
lemma mem_sheetFormulas :
    (c, source) ∈ wb.sheetFormulas i ↔ c.sheet = i ∧ wb.content c = .formula source := by
  rw [content_eq_formula]
  unfold sheetFormulas
  constructor
  · intro h
    cases hs : wb.sheet? i with
    | none =>
      rw [hs] at h
      exact absurd h List.not_mem_nil
    | some ws =>
      rw [hs] at h
      obtain ⟨⟨p, s⟩, hmem, he⟩ := List.mem_map.1 h
      obtain ⟨rfl, rfl⟩ := Prod.mk.inj he
      exact ⟨rfl, ws, hs, mem_formulas_worksheet.1 hmem⟩
  · rintro ⟨rfl, ws, hs, hcell⟩
    rw [hs]
    exact List.mem_map.2 ⟨(c.position, source), mem_formulas_worksheet.2 hcell, rfl⟩

/-- The formulas of a workbook are those that its cells hold. -/
lemma mem_formulas : (c, source) ∈ wb.formulas ↔ wb.content c = .formula source := by
  rw [formulas, List.mem_flatMap]
  constructor
  · rintro ⟨i, -, hmem⟩
    exact (mem_sheetFormulas.1 hmem).2
  · intro h
    refine ⟨c.sheet, ?_, mem_sheetFormulas.2 ⟨rfl, h⟩⟩
    obtain ⟨ws, hs, -⟩ := content_eq_formula.1 h
    exact List.mem_range.2 (Array.getElem?_eq_some_iff.1 hs).1

/-- The formulas of a sheet are in order. -/
lemma pairwise_sheetFormulas (wb : Workbook) (i : Nat) :
    (wb.sheetFormulas i).Pairwise (fun a b => a.1 < b.1) := by
  unfold sheetFormulas
  split
  case h_1 => exact .nil
  case h_2 ws _ =>
    have hcells : ws.toList.Pairwise (fun a b => compare a.1 b.1 = .lt) :=
      Std.ExtTreeMap.ordered_keys_toList
    have hformulas : ws.formulas.Pairwise (fun a b => compare a.1 b.1 = .lt) := by
      apply hcells.filterMap
      rintro ⟨p, cell⟩ ⟨q, cell'⟩ hlt a ha b hb
      obtain ⟨s, -, rfl⟩ := Option.map_eq_some_iff.1 ha
      obtain ⟨s', -, rfl⟩ := Option.map_eq_some_iff.1 hb
      exact hlt
    refine hformulas.map _ fun a b hlt => ?_
    exact Coord.lt_iff.2 (.inr ⟨rfl, Position.lt_iff.1 hlt⟩)

/-- The formulas of a workbook stand in the order of their places. -/
theorem pairwise_formulas (wb : Workbook) : wb.formulas.Pairwise (fun a b => a.1 < b.1) := by
  rw [formulas, List.pairwise_flatMap]
  refine ⟨fun i _ => pairwise_sheetFormulas wb i, ?_⟩
  apply List.pairwise_lt_range.imp
  rintro i j hlt ⟨c, s⟩ hc ⟨d, s'⟩ hd
  obtain ⟨rfl, -⟩ := mem_sheetFormulas.1 hc
  obtain ⟨rfl, -⟩ := mem_sheetFormulas.1 hd
  exact Coord.lt_iff.2 (.inl hlt)

end Workbook

end Precedents
