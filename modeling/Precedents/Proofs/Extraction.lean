import Precedents.Graph.Extraction
import Precedents.Proofs.Graph
import Precedents.Proofs.Token

/-!
# The graph of a workbook is exact

The sources of the graph are the cells in scope that read something, each once and in the order of
their places, and a cell stands among the targets of a source as often as tokens of that source
cover it (`graph_exact`). Three things carry this: formulas are listed in order and without repeats,
a token lists each of its cells once, and no two cells have the same name.
-/

namespace Precedents

/-- The cells whose formulas may become sources. -/
def Scope.Covers (wb : Workbook) (c : Coord) : Scope → Prop
  | allSheets => True
  | activeSheet => c.sheet = wb.active

namespace Workbook

open Formula (Token)

/-- How many of the tokens of the cell `c` that are followed cover the cell `d`. -/
def reads (wb : Workbook) (options : GraphOptions) (c d : Coord) : Nat :=
  ((wb.content c).tokens wb c).countP fun t => options.follows t && t.block.contains d

variable {wb : Workbook} {options : GraphOptions} {scope : Scope} {c d : Coord} {source : String}

/-! ## Targets -/

/-- A cell is listed as often as there are tokens that have it. -/
lemma count_cells_tokens (ts : List Token) (d : Coord) :
    (ts.flatMap (·.cells)).count d = ts.countP (·.block.contains d) := by
  induction ts with
  | nil => rfl
  | cons t ts ih =>
    rw [List.flatMap_cons, List.count_append, ih, List.countP_cons, Token.cells, Block.count_cells,
      Nat.add_comm]

/-- The targets of a formula have a cell as often as tokens of the formula cover it. -/
lemma count_targets (h : wb.content c = .formula source) (d : Coord) :
    (wb.targets options c source).count d = wb.reads options c d := by
  have htokens : (wb.content c).tokens wb c = Formula.tokenize wb.sheetIndex? c.sheet source := by
    rw [h]
    rfl
  rw [targets, count_cells_tokens, List.countP_filter, reads, htokens]
  simp only [Bool.and_comm]

lemma targets_ne_nil (h : wb.content c = .formula source) :
    wb.targets options c source ≠ [] ↔ ∃ d, 0 < wb.reads options c d := by
  simp only [← count_targets h, List.count_pos_iff]
  exact ⟨List.exists_mem_of_ne_nil _, fun ⟨_, hd⟩ => List.ne_nil_of_mem hd⟩

/-- Only formulas read. -/
lemma formula_of_reads (h : 0 < wb.reads options c d) :
    ∃ source, wb.content c = .formula source := by
  unfold reads at h
  cases hc : wb.content c with
  | formula source => exact ⟨source, rfl⟩
  | _ =>
    rw [hc] at h
    exact absurd h (Nat.lt_irrefl 0)

/-! ## Sources -/

/-- The formulas in scope are the formulas of the cells in scope. -/
lemma mem_formulasIn :
    (c, source) ∈ wb.formulasIn scope ↔ scope.Covers wb c ∧ wb.content c = .formula source := by
  cases scope with
  | allSheets => exact mem_formulas.trans (iff_of_eq (true_and _)).symm
  | activeSheet => exact mem_sheetFormulas

/-- The formulas in scope come in the order of their cells. -/
lemma pairwise_formulasIn (wb : Workbook) (scope : Scope) :
    (wb.formulasIn scope).Pairwise (fun a b => a.1 < b.1) := by
  cases scope with
  | allSheets => exact pairwise_formulas wb
  | activeSheet => exact pairwise_sheetFormulas wb wb.active

/-- The formulas in scope that become sources. -/
def sourcesIn (wb : Workbook) (options : GraphOptions) : List (Coord × String) :=
  (wb.formulasIn options.scope).filter fun f => !(wb.targets options f.1 f.2).isEmpty

/-- The sources come in the order of their cells. -/
lemma pairwise_sourcesIn (wb : Workbook) (options : GraphOptions) :
    (wb.sourcesIn options).Pairwise (fun a b => a.1 < b.1) :=
  (pairwise_formulasIn wb options.scope).filter _

/-- The sources are the formulas in scope that read some cell. -/
lemma mem_sourcesIn :
    (c, source) ∈ wb.sourcesIn options ↔ options.scope.Covers wb c ∧
      wb.content c = .formula source ∧ ∃ d, 0 < wb.reads options c d := by
  rw [sourcesIn, List.mem_filter, mem_formulasIn, and_assoc]
  refine and_congr_right fun _ => and_congr_right fun hc => ?_
  rw [← targets_ne_nil hc]
  simp

/-- The entries of the graph are those of its sources, and it finds each of them. -/
lemma Sound.graph (h : wb.Sound) (options : GraphOptions) :
    (wb.graph options).Sound ∧
      (wb.graph options).toList = (wb.sourcesIn options).map (wb.entry options) := by
  have hnames : ((wb.formulasIn options.scope).map (wb.entry options)).Pairwise
      (fun a b => a.1 ≠ b.1) := by
    refine (pairwise_formulasIn wb options.scope).map _ fun a b hlt => ?_
    exact fun he => Coord.ne_of_lt hlt (h.qualifiedName_inj he)
  obtain ⟨hsound, hlist⟩ := Graph.ofList_entries hnames
  refine ⟨hsound, hlist.trans ?_⟩
  rw [List.filter_map, sourcesIn]
  congr 2
  funext f
  simp [entry]

/-- Every node of the graph is the name of a cell that lies in the workbook. -/
theorem Sound.node_liesIn (h : wb.Sound) {entry : String × List String} {name : String}
    (he : entry ∈ (wb.graph options).toList) (hn : name ∈ entry.1 :: entry.2) :
    ∃ c : Coord, c.LiesIn wb ∧ name = wb.qualifiedName c := by
  rw [(h.graph options).2] at he
  obtain ⟨⟨c, source⟩, hmem, rfl⟩ := List.mem_map.1 he
  have hc : c.LiesIn wb := h.liesIn_of_formula (mem_sourcesIn.1 hmem).2.1
  cases List.mem_cons.1 hn with
  | inl hn => exact ⟨c, hc, hn⟩
  | inr hn =>
    obtain ⟨d, hd, rfl⟩ := List.mem_map.1 hn
    obtain ⟨t, ht, hd⟩ := List.mem_flatMap.1 hd
    have ht : t.LiesIn wb := h.tokens_lieIn hc.1 (List.mem_filter.1 ht).1
    exact ⟨d, ht.of_contains (Block.mem_cells.1 hd), rfl⟩

/-! ## The graph -/

/-- Every cell in scope that reads something has one entry, in the order of the cells, in which each
cell stands as often as tokens cover it, and there are no other entries. -/
theorem graph_exact (h : wb.Reachable) (options : GraphOptions) :
    ∃ cs : List Coord, cs.Pairwise (· < ·) ∧
      (∀ c, c ∈ cs ↔ options.scope.Covers wb c ∧ ∃ d, 0 < wb.reads options c d) ∧
      (wb.graph options).toList.map Prod.fst = cs.map wb.qualifiedName ∧
      ((wb.graph options).toList.map Prod.fst).Nodup ∧
      ∀ c ∈ cs, ∃ ds : List Coord,
        (wb.qualifiedName c, ds.map wb.qualifiedName) ∈ (wb.graph options).toList ∧
        (wb.graph options).targets? (wb.qualifiedName c) = some (ds.map wb.qualifiedName) ∧
        ∀ d, (ds.map wb.qualifiedName).count (wb.qualifiedName d) = wb.reads options c d := by
  have hsound := h.sound
  -- By this the names of cells may be counted in place of the cells, and no two sources clash.
  have hinj : Function.Injective wb.qualifiedName := fun _ _ he => hsound.qualifiedName_inj he
  obtain ⟨hgraph, hlist⟩ := hsound.graph options
  have hpairs : ((wb.sourcesIn options).map Prod.fst).Pairwise (· < ·) :=
    (pairwise_sourcesIn wb options).map _ fun _ _ hlt => hlt
  have hkeys : (wb.graph options).toList.map Prod.fst =
      ((wb.sourcesIn options).map Prod.fst).map wb.qualifiedName := by
    rw [hlist, List.map_map, List.map_map]
    rfl
  refine ⟨(wb.sourcesIn options).map Prod.fst, hpairs, ?_, hkeys, ?_, ?_⟩
  · intro c
    rw [List.mem_map]
    constructor
    · rintro ⟨⟨c, source⟩, hmem, rfl⟩
      obtain ⟨hcovers, -, hreads⟩ := mem_sourcesIn.1 hmem
      exact ⟨hcovers, hreads⟩
    · rintro ⟨hcovers, d, hreads⟩
      obtain ⟨source, hc⟩ := formula_of_reads hreads
      exact ⟨(c, source), mem_sourcesIn.2 ⟨hcovers, hc, d, hreads⟩, rfl⟩
  · rw [hkeys]
    exact (hpairs.imp Coord.ne_of_lt).map _ fun _ _ hne => hinj.ne hne
  · intro c hc
    obtain ⟨⟨c, source⟩, hmem, rfl⟩ := List.mem_map.1 hc
    have hentry : (wb.qualifiedName c, (wb.targets options c source).map wb.qualifiedName) ∈
        (wb.graph options).toList := hlist ▸ List.mem_map_of_mem hmem
    refine ⟨wb.targets options c source, hentry, hgraph.targets? hentry, fun d => ?_⟩
    rw [List.count_map_of_injective _ _ hinj]
    exact count_targets (mem_sourcesIn.1 hmem).2.1 d

/-- A formula that reads a cell twice, alone and in a block, has it twice among its targets. -/
theorem graph_exact_twice :
    let wb := Workbook.new.after (.set 0 "A1" (.formula "=C2+B1:D3"))
    wb.Reachable ∧ ∃ ds : List Coord,
      (wb.graph .default).targets? (wb.qualifiedName ⟨0, 0, 0⟩) = some (ds.map wb.qualifiedName) ∧
      (ds.map wb.qualifiedName).count (wb.qualifiedName ⟨0, 1, 2⟩) = 2 := by
  intro wb
  have h : wb.Reachable := .edit _ .new
  have hreads : wb.reads .default ⟨0, 0, 0⟩ ⟨0, 1, 2⟩ = 2 := by decide +kernel
  refine ⟨h, ?_⟩
  obtain ⟨cs, -, hcs, -, -, htargets⟩ := graph_exact h .default
  have hmem : (⟨0, 0, 0⟩ : Coord) ∈ cs :=
    (hcs _).2 ⟨trivial, ⟨0, 1, 2⟩, Nat.lt_of_lt_of_eq Nat.two_pos hreads.symm⟩
  obtain ⟨ds, -, hds, hcount⟩ := htargets _ hmem
  exact ⟨ds, hds, (hcount _).trans hreads⟩

end Workbook

end Precedents
