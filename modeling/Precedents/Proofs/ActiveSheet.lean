import Precedents.Proofs.Locality

/-!
# The graph sheet by sheet

Which sheet is active only tells whose formulas are the sources of a graph of the active sheet; what
they read does not depend on it. So the graph of the active sheet is that part of the whole graph
whose sources are on it (`Sound.graph_active`), and the whole graph is made up of the graphs of the
sheets, each selected in turn (`graph_by_sheet`).
-/

namespace Precedents.Workbook

variable {wb : Workbook} {limit : Option Nat} {c : Coord} {sheet : Nat} {name : String}

/-- Whether a text is the name of a cell of a sheet. -/
def NamesCellOn (wb : Workbook) (sheet : Nat) (name : String) : Prop :=
  ∃ c : Coord, c.sheet = sheet ∧ name = wb.qualifiedName c

/-- The workbook with another sheet selected. -/
def selecting (wb : Workbook) (sheet : Nat) : Workbook := { wb with active := sheet }

/-! ## Selecting a sheet -/

/-- A sheet that is there can be made active. -/
lemma setActive_ok (h : sheet < wb.sheetCount) :
    wb.setActive sheet = .ok (wb.selecting sheet) := if_pos h

/-- The edit that makes a sheet active has the workbook with that sheet active. -/
lemma after_setActive (h : sheet < wb.sheetCount) :
    wb.after (.setActive sheet) = wb.selecting sheet := by
  simp only [after, Edit.run, setActive_ok h]

/-- Which sheet is active does not bear on the soundness of a workbook. -/
lemma Sound.selecting (h : wb.Sound) (sheet : Nat) : (wb.selecting sheet).Sound :=
  ⟨h.found, h.legal, h.inGrid⟩

/-- The name of a cell names a cell on its own sheet and on no other. -/
lemma Sound.namesCellOn_iff (h : wb.Sound) :
    wb.NamesCellOn sheet (wb.qualifiedName c) ↔ c.sheet = sheet := by
  constructor
  · rintro ⟨d, rfl, he⟩
    rw [h.qualifiedName_inj he]
  · rintro rfl
    exact ⟨c, rfl, rfl⟩

/-- A name is that of a cell of one sheet at most. -/
lemma Sound.eq_of_namesCellOn (h : wb.Sound) {sheet' : Nat} (hn : wb.NamesCellOn sheet name)
    (hn' : wb.NamesCellOn sheet' name) : sheet = sheet' := by
  obtain ⟨c, rfl, rfl⟩ := hn
  exact h.namesCellOn_iff.1 hn'

/-! ## The graph of the active sheet -/

/-- The sources of the active sheet are those of all sources that are on it. -/
lemma sourcesIn_active (wb : Workbook) (limit : Option Nat) :
    wb.sourcesIn ⟨.activeSheet, limit⟩ =
      (wb.sourcesIn ⟨.allSheets, limit⟩).filter (·.1.sheet = wb.active) := by
  refine formulas_ext (pairwise_sourcesIn wb _) ((pairwise_sourcesIn wb _).filter _) ?_
  intro c source
  rw [List.mem_filter, mem_sourcesIn, mem_sourcesIn, decide_eq_true_eq, and_comm (b := c.sheet = _)]
  exact and_congr_right fun _ => (iff_of_eq (true_and _)).symm

open Classical in
/-- The graph of the active sheet is the whole graph without the sources of other sheets. -/
lemma Sound.graph_active (h : wb.Sound) (limit : Option Nat) :
    (wb.graph ⟨.activeSheet, limit⟩).toList =
      (wb.graph ⟨.allSheets, limit⟩).toList.filter (wb.NamesCellOn wb.active ·.1) := by
  rw [(h.graph _).2, (h.graph _).2, sourcesIn_active, List.filter_map]
  refine congrArg (List.map _) (List.filter_congr fun f _ => ?_)
  exact decide_eq_decide.2 h.namesCellOn_iff.symm

/-- The whole graph is made up of the graphs of the sheets, each selected in turn. -/
lemma Sound.graph_allSheets (h : wb.Sound) (limit : Option Nat) :
    (wb.graph ⟨.allSheets, limit⟩).toList = (List.range wb.sheetCount).flatMap fun sheet =>
      ((wb.selecting sheet).graph ⟨.activeSheet, limit⟩).toList := by
  rw [(h.graph _).2, sourcesIn]
  change List.map _ (List.filter _ wb.formulas) = _
  rw [formulas, List.filter_flatMap, List.map_flatMap]
  refine List.flatMap_congr fun sheet _ => ?_
  rw [((h.selecting sheet).graph _).2]
  rfl

/-- The sources of a graph of the active sheet name cells of that sheet. -/
lemma Sound.namesCellOn_source (h : wb.Sound)
    (hn : name ∈ (wb.graph ⟨.activeSheet, limit⟩).toList.map Prod.fst) :
    wb.NamesCellOn wb.active name := by
  classical
  obtain ⟨e, he, rfl⟩ := List.mem_map.1 hn
  rw [h.graph_active] at he
  exact of_decide_eq_true (List.mem_filter.1 he).2

/-! ## All sheets -/

open Classical in
/-- Each sheet can be selected; the whole graph is made up of the graphs that the workbook has then,
one behind another; no source is in two of them; and the graph of the active sheet, if there is one,
is the whole graph without the sources of other sheets. -/
theorem graph_by_sheet (h : wb.Reachable) (limit : Option Nat) :
    (∀ sheet < wb.sheetCount,
      wb.setActive sheet = .ok (wb.after (.setActive sheet))) ∧
    (wb.graph ⟨.allSheets, limit⟩).toList = (List.range wb.sheetCount).flatMap (fun sheet =>
      ((wb.after (.setActive sheet)).graph ⟨.activeSheet, limit⟩).toList) ∧
    (∀ sheet < wb.sheetCount, ∀ sheet' < wb.sheetCount, sheet ≠ sheet' →
      (((wb.after (.setActive sheet)).graph ⟨.activeSheet, limit⟩).toList.map Prod.fst).Disjoint
        (((wb.after (.setActive sheet')).graph ⟨.activeSheet, limit⟩).toList.map Prod.fst)) ∧
    (wb.graph ⟨.activeSheet, limit⟩).toList =
      (wb.graph ⟨.allSheets, limit⟩).toList.filter (wb.NamesCellOn wb.active ·.1) := by
  have hsound := h.sound
  refine ⟨?_, ?_, ?_, hsound.graph_active limit⟩
  · intro sheet hsheet
    rw [after_setActive hsheet, setActive_ok hsheet]
  · rw [hsound.graph_allSheets]
    exact List.flatMap_congr fun sheet hsheet => by rw [after_setActive (List.mem_range.1 hsheet)]
  · intro sheet hsheet sheet' hsheet' hne name hn hn'
    rw [after_setActive hsheet] at hn
    rw [after_setActive hsheet'] at hn'
    have hon : wb.NamesCellOn sheet name := (hsound.selecting sheet).namesCellOn_source hn
    have hon' : wb.NamesCellOn sheet' name := (hsound.selecting sheet').namesCellOn_source hn'
    exact hne (hsound.eq_of_namesCellOn hon hon')

/-- The graph of two sheets is that of the first and that of the second, and no cell is a source in
both. -/
theorem graph_by_sheet_two :
    let wb := ((Workbook.new.push (.empty "Data")).after (.set 0 "A1" (.formula "=B1:B2"))).after
      (.set 1 "A1" (.formula "=C1"))
    let part := fun sheet =>
      ((wb.after (.setActive sheet)).graph ⟨.activeSheet, none⟩).toList
    wb.Reachable ∧ 0 < wb.sheetCount ∧ 1 < wb.sheetCount ∧
      (wb.graph ⟨.allSheets, none⟩).toList = part 0 ++ part 1 ∧
      part 1 = [("'Data'!A1", ["'Data'!C1"])] ∧
      ((part 0).map Prod.fst).Disjoint ((part 1).map Prod.fst) := by
  intro wb part
  have hpush : Workbook.new.after (.addNamed "Data") = Workbook.new.push (.empty "Data") :=
    after_addNamed (by decide) (by rw [sheetIndex?_new]; decide +kernel)
  have h : wb.Reachable := .edit _ (.edit _ (hpush ▸ .edit _ .new))
  have hcount : wb.sheetCount = 2 := by decide +kernel
  have hfirst : 0 < wb.sheetCount := hcount ▸ by decide
  have hsecond : 1 < wb.sheetCount := hcount ▸ by decide
  obtain ⟨-, hwhole, hapart, -⟩ := graph_by_sheet h none
  refine ⟨h, hfirst, hsecond, ?_, ?_, hapart 0 hfirst 1 hsecond Nat.zero_ne_one⟩
  · rw [hwhole, hcount]
    exact congrArg (part 0 ++ ·) (List.append_nil _)
  · change Graph.toList _ = _
    rw [after_setActive hsecond, ((h.sound.selecting 1).graph _).2]
    decide +kernel

end Precedents.Workbook
