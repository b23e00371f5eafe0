import Precedents.Proofs.Dot
import Precedents.Proofs.Extraction

/-!
# One cell of a graph

What a formula reads depends on its own text and on the names of the sheets, not on what other cells
hold. So workbooks that differ in one cell only (`AgreeOff`) have the same formulas elsewhere, in
the same order, with the same entries, and their graphs differ in the entry of that cell at most
(`graph_local`).
-/

namespace Precedents.Workbook

/-- Two workbooks that differ in one cell at most. -/
structure AgreeOff (x : Coord) (wb wb' : Workbook) : Prop where
  names : wb.sheetName? = wb'.sheetName?
  index : wb.byName = wb'.byName
  active : wb.active = wb'.active
  content : ∀ c, c ≠ x → wb.content c = wb'.content c

variable {wb wb' wb'' : Workbook} {x : Coord} {cell : Cell} {options : GraphOptions}

lemma AgreeOff.symm (h : AgreeOff x wb wb') : AgreeOff x wb' wb :=
  ⟨h.names.symm, h.index.symm, h.active.symm, fun c hc => (h.content c hc).symm⟩

lemma AgreeOff.trans (h : AgreeOff x wb wb') (h' : AgreeOff x wb' wb'') : AgreeOff x wb wb'' :=
  ⟨h.names.trans h'.names, h.index.trans h'.index, h.active.trans h'.active,
    fun c hc => (h.content c hc).trans (h'.content c hc)⟩

/-! ## Storing a cell -/

/-- Every cell of the grid can be stored, on every sheet. -/
lemma exists_setAt (hx : x.LiesIn wb) (cell : Cell) :
    ∃ wb', wb.setAt x.sheet x.position cell = .ok wb' := by
  obtain ⟨ws, hs⟩ : ∃ ws, wb.sheet? x.sheet = some ws := ⟨_, Array.getElem?_eq_getElem hx.1⟩
  obtain ⟨ws', hset⟩ := exists_sheet_setAt ws (p := x.position) hx.2.1 hx.2.2 cell
  refine ⟨wb.setSheet x.sheet ws', ?_⟩
  rw [setAt, onSheet, hs]
  change (ws.setAt x.position cell >>= _) = _
  rw [hset]
  rfl

/-- A write changes the content of its cell, and of no other. -/
lemma content_setAt (h : wb.setAt x.sheet x.position cell = .ok wb') (c : Coord) :
    wb'.content c = if c = x then cell else wb.content c := by
  obtain ⟨ws, ws', hs, hset, rfl⟩ := onSheet_ok h
  obtain ⟨-, -, hcells⟩ := cell?_setAt hset
  unfold content
  rw [sheet?_setSheet hs]
  by_cases hc : c = x
  · rw [if_pos hc, if_pos (congrArg Coord.sheet hc)]
    dsimp only
    rw [Worksheet.content, hcells, if_pos (congrArg Coord.position hc)]
    cases cell with
    | blank => rfl
    | _ => rfl
  · rw [if_neg hc]
    by_cases hsheet : c.sheet = x.sheet
    · have hp : c.position ≠ x.position := fun hp => hc (Coord.ext_position hsheet hp)
      rw [if_pos hsheet, hsheet, hs]
      dsimp only
      rw [Worksheet.content, hcells, if_neg hp]
      rfl
    · rw [if_neg hsheet]

/-- A workbook and what a write makes of it agree off the cell that is written. -/
lemma agreeOff_setAt (h : wb.setAt x.sheet x.position cell = .ok wb') : AgreeOff x wb wb' where
  content c hc := by rw [content_setAt h, if_neg hc]
  names := by
    obtain ⟨ws, ws', hs, hset, rfl⟩ := onSheet_ok h
    exact (sheetName?_setSheet hs (cell?_setAt hset).1).symm
  index := by
    obtain ⟨ws, ws', -, -, rfl⟩ := onSheet_ok h
    rfl
  active := by
    obtain ⟨ws, ws', -, -, rfl⟩ := onSheet_ok h
    rfl

/-! ## Entries -/

/-- Workbooks that agree off a cell have the same names of cells. -/
lemma AgreeOff.qualifiedName (h : AgreeOff x wb wb') : wb.qualifiedName = wb'.qualifiedName := by
  funext c
  rw [Workbook.qualifiedName, Workbook.qualifiedName, h.names]

/-- In workbooks that agree off a cell a formula has the same targets. -/
lemma AgreeOff.targets (h : AgreeOff x wb wb') : wb.targets options = wb'.targets options := by
  have hindex : wb.sheetIndex? = wb'.sheetIndex? := by
    funext name
    rw [sheetIndex?, sheetIndex?, h.index]
  funext c source
  rw [Workbook.targets, Workbook.targets, hindex]

/-- In workbooks that agree off a cell a formula makes the same entry. -/
lemma AgreeOff.entry (h : AgreeOff x wb wb') : wb.entry options = wb'.entry options := by
  funext f
  rw [Workbook.entry, Workbook.entry, h.targets, h.qualifiedName]

/-- Formulas that stand in the order of their places are known by which they are. -/
lemma formulas_ext {fs gs : List (Coord × String)} (hf : fs.Pairwise (fun a b => a.1 < b.1))
    (hg : gs.Pairwise (fun a b => a.1 < b.1))
    (h : ∀ c source, (c, source) ∈ fs ↔ (c, source) ∈ gs) : fs = gs := by
  have hirrefl : Std.Irrefl (fun a b : Coord × String => a.1 < b.1) :=
    ⟨fun a hlt => Coord.ne_of_lt hlt rfl⟩
  have hantisymm : Std.Antisymm (fun a b : Coord × String => a.1 < b.1) :=
    ⟨fun a b hlt hgt => absurd hgt (Coord.lt_asymm hlt)⟩
  exact hf.eq_of_mem_iff hg fun f => h f.1 f.2

/-- Off the cell the formulas in scope are the same, in the same order. -/
lemma AgreeOff.formulasIn (h : AgreeOff x wb wb') (scope : Scope) :
    (wb.formulasIn scope).filter (·.1 ≠ x) = (wb'.formulasIn scope).filter (·.1 ≠ x) := by
  refine formulas_ext ((pairwise_formulasIn wb scope).filter _)
    ((pairwise_formulasIn wb' scope).filter _) fun c source => ?_
  have hcovers : scope.Covers wb c ↔ scope.Covers wb' c := by
    cases scope with
    | allSheets => exact Iff.rfl
    | activeSheet => exact iff_of_eq (congrArg (c.sheet = ·) h.active)
  rw [List.mem_filter, List.mem_filter, mem_formulasIn, mem_formulasIn, hcovers]
  refine and_congr_left fun hc => ?_
  rw [h.content c (of_decide_eq_true hc)]

/-- Off the cell the same formulas become sources, in the same order. -/
lemma AgreeOff.sourcesIn (h : AgreeOff x wb wb') :
    (wb.sourcesIn options).filter (·.1 ≠ x) = (wb'.sourcesIn options).filter (·.1 ≠ x) := by
  rw [Workbook.sourcesIn, Workbook.sourcesIn, List.filter_comm, h.formulasIn, h.targets,
    List.filter_comm]

/-! ## Graphs -/

/-- The entries of a graph without that of a cell are those of the other sources. -/
lemma Sound.graph_filter (h : wb.Sound) (x : Coord) :
    (wb.graph options).toList.filter (·.1 ≠ wb.qualifiedName x) =
      ((wb.sourcesIn options).filter (·.1 ≠ x)).map (wb.entry options) := by
  rw [(h.graph options).2, List.filter_map]
  congr 2
  funext f
  have hiff : wb.qualifiedName f.1 ≠ wb.qualifiedName x ↔ f.1 ≠ x :=
    not_congr ⟨h.qualifiedName_inj, congrArg _⟩
  exact decide_eq_decide.2 hiff

/-- A cell without a formula is no source. -/
lemma Sound.not_mem_sources (h : wb.Sound) (hx : (wb.content x).formula? = none) :
    wb.qualifiedName x ∉ (wb.graph options).toList.map Prod.fst := by
  rw [(h.graph options).2, List.map_map]
  intro hmem
  obtain ⟨⟨c, source⟩, hsource, he⟩ := List.mem_map.1 hmem
  obtain rfl : c = x := h.qualifiedName_inj he
  rw [(mem_sourcesIn.1 hsource).2.1] at hx
  cases hx

/-- To leave out a name that no entry has is to leave out nothing. -/
lemma filter_of_not_mem {entries : List (String × List String)} {name : String}
    (h : name ∉ entries.map Prod.fst) : entries.filter (·.1 ≠ name) = entries := by
  rw [List.filter_eq_self]
  exact fun e he => decide_eq_true fun heq => h (List.mem_map.2 ⟨e, he, heq⟩)

/-- Without the entry of the cell in which two workbooks differ, their graphs are the same. -/
lemma AgreeOff.graph (h : AgreeOff x wb wb') (hwb : wb.Sound) (hwb' : wb'.Sound)
    (options : GraphOptions) :
    (wb.graph options).toList.filter (·.1 ≠ wb.qualifiedName x) =
      (wb'.graph options).toList.filter (·.1 ≠ wb'.qualifiedName x) := by
  rw [hwb.graph_filter, hwb'.graph_filter, h.sourcesIn, h.entry]

/-- Whatever is stored in a cell of the grid, be it a formula, a malformed one, a value or nothing,
the graph is the same without the entry of that cell. Where it is no formula, the cell is no source
and the whole graph is the same. -/
theorem graph_local (h : wb.Reachable) (hx : x.LiesIn wb) (cell₁ cell₂ : Cell) :
    ∃ wb₁ wb₂, wb.setAt x.sheet x.position cell₁ = .ok wb₁ ∧
      wb.setAt x.sheet x.position cell₂ = .ok wb₂ ∧
      wb₁.qualifiedName = wb.qualifiedName ∧ wb₂.qualifiedName = wb.qualifiedName ∧
      ∀ options : GraphOptions,
        (wb₁.graph options).toList.filter (·.1 ≠ wb.qualifiedName x) =
          (wb₂.graph options).toList.filter (·.1 ≠ wb.qualifiedName x) ∧
        (cell₁.formula? = none → cell₂.formula? = none →
          (wb₁.graph options == wb₂.graph options) = true ∧
          wb.qualifiedName x ∉ (wb₁.graph options).toList.map Prod.fst ∧
          wb.qualifiedName x ∉ (wb₂.graph options).toList.map Prod.fst) := by
  obtain ⟨wb₁, h₁⟩ := exists_setAt hx cell₁
  obtain ⟨wb₂, h₂⟩ := exists_setAt hx cell₂
  have hagree₁ := agreeOff_setAt h₁
  have hagree₂ := agreeOff_setAt h₂
  have hsound₁ : wb₁.Sound := h.sound.change (change_of_run (e := .setAt _ _ cell₁) h₁)
  have hsound₂ : wb₂.Sound := h.sound.change (change_of_run (e := .setAt _ _ cell₂) h₂)
  refine ⟨wb₁, wb₂, h₁, h₂, hagree₁.qualifiedName.symm, hagree₂.qualifiedName.symm, ?_⟩
  intro options
  have hothers := (hagree₁.symm.trans hagree₂).graph hsound₁ hsound₂ options
  rw [← hagree₁.qualifiedName, ← hagree₂.qualifiedName] at hothers
  refine ⟨hothers, fun hcell₁ hcell₂ => ?_⟩
  -- Neither graph has an entry of the cell, so that nothing has been left out.
  have hx₁ : wb.qualifiedName x ∉ (wb₁.graph options).toList.map Prod.fst := by
    rw [hagree₁.qualifiedName]
    exact hsound₁.not_mem_sources (by rw [content_setAt h₁, if_pos rfl, hcell₁])
  have hx₂ : wb.qualifiedName x ∉ (wb₂.graph options).toList.map Prod.fst := by
    rw [hagree₂.qualifiedName]
    exact hsound₂.not_mem_sources (by rw [content_setAt h₂, if_pos rfl, hcell₂])
  rw [filter_of_not_mem hx₁, filter_of_not_mem hx₂] at hothers
  exact ⟨Graph.beq_iff.2 hothers, hx₁, hx₂⟩

/-- A malformed formula and a text in its place leave the entry of the cell above them alone. -/
theorem graph_local_malformed :
    let wb := Workbook.new.after (.set 0 "A1" (.formula "=B2"))
    wb.Reachable ∧ ∃ wb₁ wb₂, wb.setAt 0 ⟨1, 1⟩ (.formula "=A1+(") = .ok wb₁ ∧
      wb.setAt 0 ⟨1, 1⟩ (.text "=A1") = .ok wb₂ ∧
      (wb₁.graph .default).toList.filter (·.1 ≠ "'Sheet1'!B2") =
        (wb₂.graph .default).toList.filter (·.1 ≠ "'Sheet1'!B2") := by
  intro wb
  have h : wb.Reachable := .edit _ .new
  have hx : (⟨0, 1, 1⟩ : Coord).LiesIn wb := ⟨by decide +kernel, by decide, by decide⟩
  obtain ⟨wb₁, wb₂, h₁, h₂, -, -, hgraph⟩ := graph_local h hx (.formula "=A1+(") (.text "=A1")
  have hname : wb.qualifiedName ⟨0, 1, 1⟩ = "'Sheet1'!B2" := by decide +kernel
  exact ⟨h, wb₁, wb₂, h₁, h₂, hname ▸ (hgraph .default).1⟩

end Precedents.Workbook
