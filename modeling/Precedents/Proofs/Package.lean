import Precedents.Package.Reading
import Precedents.Proofs.SheetPart

/-!
# What a package is read as

The sheets of the workbook are those that the main part lists, in that order, each under its name
and with the cells that its part holds when it is read on its own. This is kept while sheets are
added one by one (`Filled`, `Filled.addSheet`), and from it follows all that is known of a workbook
that could be read (`contract_of_workbookBy`). None of it depends on how the documents are had from
the parts, so that it holds of the documents that the parts of a file do hold
(`workbook_contract`).
-/

namespace Precedents

/-! ## The cells of a sheet -/

/-- Every stored cell is on the grid and holds something. -/
def Worksheet.Clean (ws : Worksheet) : Prop :=
  ∀ p cell, ws.cell? p = some cell → (p.row < rowLimit ∧ p.col < columnLimit) ∧ cell ≠ .blank

lemma Worksheet.Clean.empty (name : String) : (Worksheet.empty name).Clean := by
  intro p cell h
  exact absurd h (by simp [Worksheet.empty, Worksheet.cell?])

/-- A write leaves a sheet clean. -/
lemma Worksheet.Clean.setAt {ws ws' : Worksheet} {p : Position} {cell : Cell} (h : ws.Clean)
    (hset : ws.setAt p cell = .ok ws') : ws'.Clean := by
  obtain ⟨-, hp, hcells⟩ := Workbook.cell?_setAt hset
  intro q cell' hc
  rw [hcells] at hc
  split at hc
  case isTrue hq =>
    split at hc
    case isTrue => cases hc
    case isFalse hblank =>
      obtain rfl := Option.some.inj hc
      refine ⟨hq ▸ hp, ?_⟩
      rintro rfl
      exact hblank rfl
  case isFalse => exact h q cell' hc

/-- A sheet that is read keeps its name and is clean. -/
theorem SheetPart.read_clean {sheet ws : Worksheet} {strings : Array String} {d : Markup.Document}
    (h : SheetPart.read sheet strings d = .ok ws) (hclean : sheet.Clean) :
    ws.name = sheet.name ∧ ws.Clean := by
  refine SheetPart.read_keeps (P := fun ws => ws.name = sheet.name ∧ ws.Clean) ?_ ⟨rfl, hclean⟩ h
  rintro ws p cell ws' ⟨hname, hws⟩ hset
  exact ⟨(Workbook.cell?_setAt hset).1.trans hname, hws.setAt hset⟩

/-! ## What the parts tell -/

lemma map_of_mapM {ε α β : Type} {f : α → Option β} {g : α → Except ε β}
    (hg : ∀ a b, g a = .ok b → f a = some b) {as : List α} {bs : List β}
    (h : as.mapM g = .ok bs) : as.map f = bs.map some := by
  induction as generalizing bs with
  | nil =>
    obtain rfl := Except.ok.inj h
    rfl
  | cons a as ih =>
    rw [List.mapM_cons] at h
    obtain ⟨b, hb, h⟩ := exists_ok_of_bind h
    obtain ⟨bs', hbs, h⟩ := exists_ok_of_bind h
    obtain rfl := Except.ok.inj h
    rw [List.map_cons, List.map_cons, hg a b hb, ih hbs]

/-- To look a key up from behind is to find its last entry. -/
lemma lookup_reverse {α : Type} (entries : List (String × α)) (key : String) :
    entries.reverse.lookup key = ((entries.filter (·.1 == key)).getLast?).map (·.2) := by
  induction entries using List.reverseRecOn with
  | nil => rfl
  | append_singleton entries entry ih =>
    obtain ⟨key', a⟩ := entry
    rw [List.reverse_append, List.reverse_singleton, List.singleton_append, List.lookup_cons,
      List.filter_append]
    by_cases hk : key' = key
    · subst hk
      simp
    · rw [beq_false_of_ne (Ne.symm hk)]
      simp [hk, ih]

namespace Package

open Markup

/-- The tab that the first view of the main part tells, if it tells one. -/
def activeTab? (main : Document) : Option Nat := do
  let view ← main.tags.find? (·.isNamed "workbookView")
  let tab ← view.value? "activeTab"
  Text.countBelow? Text.limit64 tab

/-- What the last relationship to a sheet that has this identifier points at. -/
def lastTarget? (relationships : Document) (id : String) : Option SheetTarget :=
  (((relationships.tags.filterMap Relationships.entry?).filter (·.1 == id)).getLast?).map (·.2)

/-- The main part lists these sheets. -/
def Lists (main : Document) (entries : List SheetEntry) : Prop :=
  (main.tags.filter (·.isNamed "sheet")).map SheetEntry.ofTag? = entries.map some

/-- The sheet of this name that a target stands for: what its part is read as on its own, or an
empty one where there is no part with cells. -/
def Holds (document : Part → Document) (p : Package) (strings : Array String) (name : String) :
    Option SheetTarget → Worksheet → Prop
  | some (.worksheet path), ws => ∃ part, p.part? path = some part ∧
    SheetPart.read (.empty name) strings (document part) = .ok ws
  | some .cellless, ws => ws = .empty name
  | none, ws => ws = .empty name

variable {document : Part → Document} {p : Package} {strings : Array String}
variable {relationships : Relationships} {name : String}
variable {target : Option SheetTarget} {ws : Worksheet} {wb wb' : Workbook} {entry : SheetEntry}
variable {entries : List SheetEntry} {contents : Contents} {d : Document}

/-- The target of a relationship is the last that the document has for it. -/
lemma target?_of_ofDocument (h : Relationships.ofDocument d = .ok relationships) (id : String) :
    relationships.target? id = lastTarget? d id := by
  unfold Relationships.ofDocument at h
  split at h
  case isTrue =>
    obtain rfl := Except.ok.inj h
    exact lookup_reverse _ id
  case isFalse => cases h

/-- The contents are the sheets and the active tab that the document lists. -/
lemma lists_of_ofDocument (h : Contents.ofDocument d = .ok contents) :
    Lists d contents.sheets ∧ contents.activeTab = (activeTab? d).getD 0 := by
  obtain ⟨c, hc, h⟩ := exists_ok_of_bind h
  split at h
  case isFalse => cases h
  case isTrue =>
    obtain rfl := Except.ok.inj h
    obtain ⟨sheets, hsheets, hc⟩ := exists_ok_of_bind hc
    obtain rfl := Except.ok.inj hc
    refine ⟨map_of_mapM ?_ hsheets, ?_⟩
    · intro tag entry he
      split at he
      case h_1 entry' htag => rw [htag, Except.ok.inj he]
      case h_2 => cases he
    · rw [activeTab?]
      cases d.tags.find? (·.isNamed "workbookView") <;> rfl

/-! ## One sheet -/

/-- A part that is required is there. -/
lemma require_ok {part : Part} : p.require name = .ok part ↔ p.part? name = some part := by
  unfold require
  cases p.part? name with
  | none => exact ⟨nofun, nofun⟩
  | some part' =>
    exact ⟨fun h => congrArg some (Except.ok.inj h),
      fun h => congrArg Except.ok (Option.some.inj h)⟩

/-- A sheet that is read holds what its part says, and only such a sheet is read. -/
lemma sheetCells_ok :
    p.sheetCells document strings target (.empty name) = .ok ws ↔
      p.Holds document strings name target ws := by
  unfold sheetCells Holds
  cases target with
  | none => exact ⟨fun h => (Except.ok.inj h).symm, fun h => congrArg Except.ok h.symm⟩
  | some target =>
    cases target with
    | cellless => exact ⟨fun h => (Except.ok.inj h).symm, fun h => congrArg Except.ok h.symm⟩
    | worksheet path =>
      constructor
      · intro h
        obtain ⟨part, hpart, h⟩ := exists_ok_of_bind h
        exact ⟨part, require_ok.1 hpart, h⟩
      · rintro ⟨part, hpart, h⟩
        dsimp only
        rw [require_ok.2 hpart]
        exact h

/-- A sheet that holds what its part says has its name and is clean. -/
lemma Holds.clean (h : p.Holds document strings name target ws) : ws.name = name ∧ ws.Clean := by
  unfold Holds at h
  split at h
  case h_1 =>
    obtain ⟨part, -, h⟩ := h
    exact SheetPart.read_clean h (.empty name)
  case h_2 => exact h ▸ ⟨rfl, .empty name⟩
  case h_3 => exact h ▸ ⟨rfl, .empty name⟩

/-- When a listed sheet is added, and what the workbook is then. -/
lemma addSheet_ok :
    p.addSheet document strings relationships wb entry = .ok wb' ↔
      SheetName.flaw? entry.name = none ∧ wb.sheetIndex? entry.name = none ∧
        ∃ ws, p.Holds document strings entry.name (relationships.target? entry.relation) ws ∧
          wb' = (wb.push (.empty entry.name)).setSheet wb.sheetCount ws := by
  rw [addSheet, Workbook.addNamed]
  cases SheetName.flaw? entry.name with
  | some flaw => exact ⟨nofun, nofun⟩
  | none =>
    cases hi : wb.sheetIndex? entry.name with
    | some i => exact ⟨nofun, nofun⟩
    | none =>
      constructor
      · intro h
        change p.sheetCells document strings _ _ >>= _ = _ at h
        obtain ⟨ws, hws, h⟩ := exists_ok_of_bind h
        exact ⟨rfl, rfl, ws, sheetCells_ok.1 hws, (Except.ok.inj h).symm⟩
      · rintro ⟨-, -, ws, hws, rfl⟩
        change p.sheetCells document strings _ _ >>= _ = _
        rw [sheetCells_ok.2 hws]
        rfl

/-! ## All sheets -/

/-- What is kept while sheets are added: those that have been listed so far are filled. -/
structure Filled (document : Part → Document) (p : Package) (strings : Array String)
    (relationships : Relationships) (entries : List SheetEntry) (wb : Workbook) : Prop where
  sound : wb.Sound
  clean : ∀ i ws, wb.sheet? i = some ws → ws.Clean
  first : wb.active = 0
  count : wb.sheetCount = entries.length
  sheet : ∀ i entry, entries[i]? = some entry → ∃ ws, wb.sheet? i = some ws ∧
    ws.name = entry.name ∧
      p.Holds document strings entry.name (relationships.target? entry.relation) ws

lemma Filled.empty : p.Filled document strings relationships [] .empty where
  sound := .empty
  clean := by simp [Workbook.empty, Workbook.sheet?]
  first := rfl
  count := rfl
  sheet := by simp

/-- A sheet that is added fills the workbook by one entry more. -/
lemma Filled.addSheet (h : p.Filled document strings relationships entries wb)
    (hadd : p.addSheet document strings relationships wb entry = .ok wb') :
    p.Filled document strings relationships (entries ++ [entry]) wb' := by
  obtain ⟨hlegal, hfree, ws, hws, rfl⟩ := addSheet_ok.1 hadd
  obtain ⟨hname, hclean⟩ := hws.clean
  have hnew : (wb.push (.empty entry.name)).sheet? wb.sheetCount = some (.empty entry.name) := by
    rw [Workbook.sheet?_push, if_pos rfl]
  -- The new sheet stands behind the others, which stay as they are.
  have hsheet : ∀ i, ((wb.push (.empty entry.name)).setSheet wb.sheetCount ws).sheet? i =
      if i = wb.sheetCount then some ws else wb.sheet? i := by
    intro i
    rw [Workbook.sheet?_setSheet hnew, Workbook.sheet?_push]
    split <;> rfl
  refine ⟨?_, ?_, h.first, ?_, ?_⟩
  · exact (h.sound.push hlegal hfree).setSheet hnew hname fun p cell hc => (hclean p cell hc).1
  · intro i ws' hi
    rw [hsheet] at hi
    split at hi
    · exact Option.some.inj hi ▸ hclean
    · exact h.clean i ws' hi
  · rw [List.length_append, ← h.count]
    simp [Workbook.sheetCount, Workbook.setSheet, Workbook.push]
  · intro i entry' hi
    rw [hsheet]
    by_cases he : i = wb.sheetCount
    · rw [he, h.count, List.getElem?_concat_length] at hi
      obtain rfl := Option.some.inj hi
      exact ⟨ws, if_pos he, hname, hws⟩
    · have hlt : i < entries.length := by
        obtain ⟨hlt, -⟩ := List.getElem?_eq_some_iff.1 hi
        rw [List.length_append, List.length_singleton, ← h.count] at hlt
        rw [← h.count]
        omega
      rw [List.getElem?_append_left hlt] at hi
      rw [if_neg he]
      exact h.sheet i entry' hi

/-- Sheets that are added one after another fill the workbook. -/
theorem filled_of_foldlM
    (h : entries.foldlM (p.addSheet document strings relationships) .empty = .ok wb) :
    p.Filled document strings relationships entries wb := by
  -- Along the list: the sheets that have been added and those still to come make up the list.
  have hfill := foldlM_invariant (I := fun rest wb => ∃ done, done ++ rest = entries ∧
    p.Filled document strings relationships done wb) ?_ ⟨[], rfl, .empty⟩ h
  · obtain ⟨done, hdone, hfilled⟩ := hfill
    rw [List.append_nil] at hdone
    exact hdone ▸ hfilled
  · rintro entry rest wb wb' ⟨done, hdone, hfilled⟩ hadd
    refine ⟨done ++ [entry], ?_, hfilled.addSheet hadd⟩
    rw [List.append_assoc]
    exact hdone

/-! ## The workbook -/

/-- A sheet is added to the workbook without sheets. -/
lemma add_empty : Workbook.empty.add = .ok (0, .new) := by
  have hfree : ∀ name, Workbook.empty.sheetIndex? name = none := fun name =>
    Std.HashMap.getElem?_empty
  have hnumber : Workbook.empty.freeNumber = 1 := by
    change (List.find? (fun n => (Workbook.empty.sheetIndex? _).isNone) [1]).getD 2 = 1
    rw [List.find?_cons_of_pos]
    · rfl
    · rw [hfree]
      rfl
  have hlegal : SheetName.flaw? (Workbook.numberedName 1) = none := by decide
  rw [Workbook.add, hnumber, Workbook.addNamed, hlegal, hfree]
  rfl

/-- A sheet is made active if there is one, and else all stays as it was. -/
lemma setActive_getD (wb : Workbook) (index : Nat) :
    (wb.setActive index).toOption.getD wb =
      { wb with active := if index < wb.sheetCount then index else wb.active } := by
  rw [Workbook.setActive]
  split
  · rfl
  · rfl

/-- What succeeds where refusals are told apart succeeded. -/
lemma refusable_ok {α : Type} {x : Except Error α} {a : α} (h : refusable x = .ok a) :
    x = .ok a := by
  cases x with
  | error e => cases h
  | ok b => exact congrArg Except.ok (Except.ok.inj h)

/-- The steps of a reading that succeeds. -/
lemma workbook_ok (h : p.workbookBy document = .ok wb) :
    ∃ main rels strings contents relationships filled full,
      p.part? contentsPart = some main ∧ p.part? relationshipsPart = some rels ∧
      p.sharedStrings document = .ok strings ∧ Contents.ofDocument (document main) = .ok contents ∧
      Relationships.ofDocument (document rels) = .ok relationships ∧
      contents.sheets.foldlM (p.addSheet document strings relationships) .empty = .ok filled ∧
      (filled.sheetCount = 0 ∧ (∃ i, filled.add = .ok (i, full)) ∨
        filled.sheetCount ≠ 0 ∧ full = filled) ∧
      wb = { full with active :=
        if contents.activeTab < full.sheetCount then contents.activeTab else full.active } := by
  unfold workbookBy at h
  split at h
  case isTrue => cases h
  case isFalse =>
    obtain ⟨strings, hstrings, h⟩ := exists_ok_of_bind h
    obtain ⟨main, hmain, h⟩ := exists_ok_of_bind h
    obtain ⟨contents, hcontents, h⟩ := exists_ok_of_bind h
    obtain ⟨rels, hrels, h⟩ := exists_ok_of_bind h
    obtain ⟨relationships, hrelationships, h⟩ := exists_ok_of_bind h
    obtain ⟨filled, hfilled, h⟩ := exists_ok_of_bind h
    -- A workbook without sheets is given one.
    obtain ⟨full, hfull, h⟩ : ∃ full, (filled.sheetCount = 0 ∧ (∃ i, filled.add = .ok (i, full)) ∨
        filled.sheetCount ≠ 0 ∧ full = filled) ∧
        (full.setActive contents.activeTab).toOption.getD full = wb := by
      dsimp only at h
      split at h
      case isTrue hempty =>
        obtain ⟨full, hadd, h⟩ := exists_ok_of_bind h
        change Except.map _ _ = _ at hadd
        obtain ⟨⟨i, full'⟩, hpair, rfl⟩ := Workbook.exists_ok_of_map hadd
        exact ⟨full', .inl ⟨hempty, i, refusable_ok hpair⟩, Except.ok.inj h⟩
      case isFalse hsome => exact ⟨filled, .inr ⟨hsome, rfl⟩, Except.ok.inj h⟩
    rw [setActive_getD] at h
    exact ⟨main, rels, strings, contents, relationships, filled, full, require_ok.1 hmain,
      require_ok.1 hrels, hstrings, hcontents, hrelationships, hfilled, hfull, h.symm⟩

/-- What is known of a workbook that was read from a package whose main part lists some sheets. -/
structure Contract (document : Part → Document) (p : Package) (strings : Array String)
    (main relationships : Document) (entries : List SheetEntry) (wb : Workbook) : Prop where
  count : wb.sheetCount = max entries.length 1
  unlisted : entries = [] → wb.sheets = #[.empty "Sheet1"]
  listed : ∀ i entry, entries[i]? = some entry → ∃ ws, wb.sheet? i = some ws ∧
    ws.name = entry.name ∧
      p.Holds document strings entry.name (lastTarget? relationships entry.relation) ws
  legal : ∀ i name, wb.sheetName? i = some name → name.toList ≠ [] ∧
    name.toList.length ≤ sheetNameLimit ∧ ∀ c ∈ name.toList, c ∉ SheetName.forbidden
  distinct : ∀ i j name name', wb.sheetName? i = some name → wb.sheetName? j = some name' →
    SheetName.fold name = SheetName.fold name' → i = j
  clean : ∀ i ws, wb.sheet? i = some ws → ws.Clean
  active : wb.active = ((activeTab? main).filter (· < wb.sheetCount)).getD 0

/-- A tab that there is no sheet for counts as the first. -/
lemma active_eq (tab : Option Nat) (n : Nat) :
    (if tab.getD 0 < n then tab.getD 0 else 0) = (tab.filter (· < n)).getD 0 := by
  cases tab with
  | none => simp
  | some tab =>
    by_cases h : tab < n
    · simp [Option.filter, h]
    · simp [Option.filter, h]

/-- The contract holds of a sound and clean workbook with the right sheets, once the active one is
set. -/
lemma contract_of_sound {main rels : Document} {tab : Nat} (hsound : wb.Sound)
    (hclean : ∀ i ws, wb.sheet? i = some ws → ws.Clean) (hfirst : wb.active = 0)
    (hcount : wb.sheetCount = max entries.length 1)
    (hunlisted : entries = [] → wb.sheets = #[.empty "Sheet1"])
    (hlisted : ∀ i entry, entries[i]? = some entry → ∃ ws, wb.sheet? i = some ws ∧
      ws.name = entry.name ∧
        p.Holds document strings entry.name (lastTarget? rels entry.relation) ws)
    (htab : tab = (activeTab? main).getD 0) :
    Contract document p strings main rels entries
      { wb with active := if tab < wb.sheetCount then tab else wb.active } where
  count := hcount
  unlisted := hunlisted
  listed := hlisted
  legal i name hn := SheetName.flaw?_eq_none_iff.1 (hsound.legal i name hn)
  distinct _ _ _ _ hi hj he := hsound.distinct hi hj he
  clean := hclean
  active := by
    rw [htab, hfirst]
    exact active_eq _ _

/-- However the documents are had from the parts: every package that can be read is read as they
say. -/
theorem contract_of_workbookBy (h : p.workbookBy document = .ok wb) :
    ∃ main rels strings entries, p.part? contentsPart = some main ∧
      p.part? relationshipsPart = some rels ∧ p.sharedStrings document = .ok strings ∧
      Lists (document main) entries ∧
      Contract document p strings (document main) (document rels) entries wb := by
  obtain ⟨main, rels, strings, contents, relationships, filled, full, hmain, hrels, hstrings,
    hcontents, hrelationships, hfilled, hfull, rfl⟩ := workbook_ok h
  obtain ⟨hlists, htab⟩ := lists_of_ofDocument hcontents
  have hfill := filled_of_foldlM hfilled
  refine ⟨main, rels, strings, contents.sheets, hmain, hrels, hstrings, hlists, ?_⟩
  rcases hfull with ⟨hcount, i, hadd⟩ | ⟨hcount, rfl⟩
  · -- No sheet is listed, so that none has been added and the workbook is a new one.
    have hnil : contents.sheets = [] := List.eq_nil_of_length_eq_zero (hfill.count ▸ hcount)
    rw [hnil] at hfilled ⊢
    obtain rfl := Except.ok.inj hfilled
    rw [add_empty] at hadd
    obtain ⟨-, rfl⟩ := Prod.mk.inj (Except.ok.inj hadd)
    refine contract_of_sound Workbook.Reachable.new.sound ?_ rfl rfl (fun _ => rfl) (by simp) htab
    intro i ws hs
    change (Workbook.empty.push (.empty "Sheet1")).sheet? i = some ws at hs
    rw [Workbook.sheet?_push] at hs
    split at hs
    · exact Option.some.inj hs ▸ .empty _
    · exact absurd hs (by simp [Workbook.empty, Workbook.sheet?])
  · -- The sheets are those that were added, one for each entry.
    refine contract_of_sound hfill.sound hfill.clean hfill.first ?_ ?_ ?_ htab
    · have hcounted := hfill.count
      omega
    · intro hnil
      exact absurd (hfill.count.trans (congrArg List.length hnil)) hcount
    · intro i entry he
      rw [← target?_of_ofDocument hrelationships]
      exact hfill.sheet i entry he

/-- Every package that can be read is read as it says. -/
theorem workbook_contract (h : p.workbook = .ok wb) :
    ∃ main rels strings entries, p.part? contentsPart = some main ∧
      p.part? relationshipsPart = some rels ∧ p.sharedStrings Part.document = .ok strings ∧
      Lists main.document entries ∧
      Contract Part.document p strings main.document rels.document entries wb :=
  contract_of_workbookBy h

/-- A package of a sheet that no relationship has and of one with a cell, which is the active one.
Of two relationships with one identifier the last counts. -/
def lostAndFound : Package where
  parts := [
    (contentTypesPart, some (.ofBytes [])),
    (contentsPart, some (.ofBytes (ascii ("<workbook><workbookView activeTab='1'/>" ++
      "<sheet name='Lost' r:id='a'/><sheet name='Data' r:id='b'/></workbook>")))),
    (relationshipsPart, some (.ofBytes (ascii (
      "<Relationship Id='b' Type='/chartsheet' Target='plot.xml'/>" ++
      "<Relationship Id='b' Type='/worksheet' Target='data.xml'/>")))),
    ("xl/data.xml", some (.ofBytes (ascii "<c r='B2' t='str'><v>x</v></c>")))]

/-- What its sheets refer to. -/
def lostAndFoundTargets : Relationships where
  entries := [("b", .cellless), ("b", .worksheet "xl/data.xml")]

/-- The package with a lost sheet is read. -/
lemma lostAndFound_workbook : ∃ wb, lostAndFound.workbook = .ok wb := by
  obtain ⟨main, hmain, hcontents⟩ : ∃ main, lostAndFound.require contentsPart = .ok main ∧
      Contents.ofDocument main.document = .ok ⟨[⟨"Lost", "a"⟩, ⟨"Data", "b"⟩], 1⟩ :=
    ⟨_, rfl, by decide +kernel⟩
  obtain ⟨rels, hrels, hrelationships⟩ :
      ∃ rels, lostAndFound.require relationshipsPart = .ok rels ∧
        Relationships.ofDocument rels.document = .ok lostAndFoundTargets :=
    ⟨_, rfl, by decide +kernel⟩
  obtain ⟨part, hpart, hread⟩ : ∃ part, lostAndFound.part? "xl/data.xml" = some part ∧
      (SheetPart.read (.empty "Data") #[] part.document).isOk = true :=
    ⟨_, rfl, by decide +kernel⟩
  cases hcells : SheetPart.read (.empty "Data") #[] part.document with
  | error why =>
    rw [hcells] at hread
    cases hread
  | ok data =>
    let lost := (Workbook.empty.push (.empty "Lost")).setSheet 0 (.empty "Lost")
    have hlost : lostAndFound.addSheet Part.document #[] lostAndFoundTargets .empty
        ⟨"Lost", "a"⟩ = .ok lost :=
      addSheet_ok.2 ⟨by decide, Std.HashMap.getElem?_empty, .empty "Lost", rfl, rfl⟩
    -- A hash cannot be evaluated, so that the index of names is followed by its lemmas.
    have hfree : lost.sheetIndex? "Data" = none := by
      change (Std.HashMap.insert ∅ (SheetName.fold "Lost") 0)[SheetName.fold "Data"]? = none
      rw [Std.HashMap.getElem?_insert, if_neg (by decide +kernel), Std.HashMap.getElem?_empty]
    let both := (lost.push (.empty "Data")).setSheet 1 data
    have hdata : lostAndFound.addSheet Part.document #[] lostAndFoundTargets lost
        ⟨"Data", "b"⟩ = .ok both :=
      addSheet_ok.2 ⟨by decide, hfree, data, ⟨part, hpart, hcells⟩, rfl⟩
    refine ⟨{ both with active := 1 }, ?_⟩
    rw [workbook, workbookBy, if_neg (by decide), hmain]
    change Contents.ofDocument main.document >>= _ = _
    rw [hcontents, hrels]
    change Relationships.ofDocument rels.document >>= _ = _
    rw [hrelationships]
    change (lostAndFound.addSheet Part.document #[] lostAndFoundTargets .empty
        ⟨"Lost", "a"⟩ >>= fun wb =>
      lostAndFound.addSheet Part.document #[] lostAndFoundTargets wb
        ⟨"Data", "b"⟩ >>= pure) >>= _ = _
    rw [hlost]
    change (lostAndFound.addSheet Part.document #[] lostAndFoundTargets lost
      ⟨"Data", "b"⟩ >>= pure) >>= _ = _
    rw [hdata]
    rfl

/-- A package of which both sheets and the active tab are told. -/
theorem workbook_contract_lost :
    ∃ wb, lostAndFound.workbook = .ok wb ∧
      ∃ main rels strings entries, lostAndFound.part? contentsPart = some main ∧
        lostAndFound.part? relationshipsPart = some rels ∧
        lostAndFound.sharedStrings Part.document = .ok strings ∧ Lists main.document entries ∧
        Contract Part.document lostAndFound strings main.document rels.document entries wb := by
  obtain ⟨wb, h⟩ := lostAndFound_workbook
  exact ⟨wb, h, workbook_contract h⟩

end Package

end Precedents
