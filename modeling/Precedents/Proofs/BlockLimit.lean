import Precedents.Proofs.Bounds
import Precedents.Proofs.Multimap

/-!
# Limits on the size of blocks

The edges of a graph are those of the tokens of its formulas, one formula after another and one
token after another, where a token has all of its edges or, if it is a block beyond the limit, none
(`Sound.edges_graph`). A greater limit lets more tokens through. So a limit only takes blocks away,
each as a whole, and leaves the other edges in their order (`graph_limited`).
-/

namespace Precedents

open Formula (Token)

/-! ## Limits -/

/-- Whether a limit is no greater than another. No limit is greater than all. -/
def GraphOptions.LimitLE : Option Nat → Option Nat → Prop
  | _, none => True
  | some m, some n => m ≤ n
  | none, some _ => False

namespace Formula.Token

/-- Whether a limit lets a token through: a cell always, a block if it has no more cells. -/
def Within (limit : Option Nat) : Token → Prop
  | single _ => True
  | range b => ∀ n ∈ limit, b.cellCount ≤ n

instance (limit : Option Nat) : DecidablePred (Within limit)
  | single _ => inferInstanceAs (Decidable True)
  | range b => inferInstanceAs (Decidable (∀ n ∈ limit, b.cellCount ≤ n))

/-- The cell that is read, if the token is no block. -/
def cell? : Token → Option Coord
  | single c => some c
  | range _ => none

variable {t : Token} {limit limit' : Option Nat} {c : Coord}

/-- A token is followed exactly if the limit lets it through. -/
lemma follows_iff {options : GraphOptions} :
    options.follows t = true ↔ t.Within options.maxRangeCells := by
  obtain ⟨scope, limit⟩ := options
  cases t with
  | single c => exact iff_of_true rfl trivial
  | range b =>
    cases limit with
    | none => exact iff_of_true rfl nofun
    | some n =>
      have hlimit : (∀ m ∈ some n, b.cellCount ≤ m) ↔ b.cellCount ≤ n :=
        ⟨fun h => h n rfl, fun h m hm => Option.mem_some_iff.1 hm ▸ h⟩
      exact decide_eq_true_iff.trans hlimit.symm

/-- What a limit lets through a greater one lets through as well. -/
lemma Within.mono (hle : GraphOptions.LimitLE limit limit') (h : t.Within limit) :
    t.Within limit' := by
  cases t with
  | single c => trivial
  | range b =>
    intro n hn
    obtain rfl := Option.mem_def.1 hn
    cases limit with
    | none => exact hle.elim
    | some m => exact Nat.le_trans (h m rfl) hle

/-- In a workbook of fewer than `2 ^ 30` sheets a token lists as many cells as it counts. -/
lemma LiesIn.length_cells {wb : Workbook} (h : t.LiesIn wb) (hn : wb.sheetCount < 2 ^ 30) :
    t.cells.length = t.cellCount :=
  (Block.LiesIn.countable h hn).cellCount_eq.symm

/-- A token that is no block passes every limit, and its cell is the only one. -/
lemma single_of_cell? (h : t.cell? = some c) (limit : Option Nat) :
    t.Within limit ∧ t.cells = [c] := by
  cases t with
  | single d =>
    obtain rfl := Option.some.inj h
    refine ⟨trivial, ?_⟩
    simp [cells, block, Block.cells, Block.single]
  | range b => cases h

end Formula.Token

namespace Workbook

/-- The tokens of the formulas in scope, each with the place of its formula. -/
def tokensIn (wb : Workbook) (scope : Scope) : List (Coord × Token) :=
  (wb.formulasIn scope).flatMap fun f =>
    (Formula.tokenize wb.sheetIndex? f.1.sheet f.2).map (f.1, ·)

/-- The edge from a cell to another. -/
def edge (wb : Workbook) (c d : Coord) : String × String :=
  (wb.qualifiedName c, wb.qualifiedName d)

/-- The edges that a token has under a limit: one to each of its cells, or none. -/
def edgesWithin (wb : Workbook) (limit : Option Nat) (p : Coord × Token) :
    List (String × String) :=
  if p.2.Within limit then p.2.cells.map (wb.edge p.1) else []

variable {wb : Workbook} {limit limit' : Option Nat} {scope : Scope} {p : Coord × Token}

/-! ## The edges of a graph -/

/-- Filtering first is as good as making nothing of what would be filtered out. -/
lemma flatMap_filter {α β : Type} {p : α → Bool} {f g : α → List β} {as : List α}
    (h : ∀ a, g a = if p a then f a else []) : (as.filter p).flatMap f = as.flatMap g := by
  induction as with
  | nil => rfl
  | cons a as ih =>
    rw [List.flatMap_cons, h, ← ih]
    cases hp : p a with
    | true => rw [List.filter_cons_of_pos hp, List.flatMap_cons, if_pos rfl]
    | false => rw [List.filter_cons_of_neg (by simp [hp]), if_neg Bool.false_ne_true,
        List.nil_append]

/-- The edges of a formula are those of its tokens. -/
lemma map_targets_edge (wb : Workbook) (options : GraphOptions) (f : Coord × String) :
    (wb.targets options f.1 f.2).map (wb.edge f.1) =
      ((Formula.tokenize wb.sheetIndex? f.1.sheet f.2).map (f.1, ·)).flatMap
        (wb.edgesWithin options.maxRangeCells) := by
  rw [targets, List.map_flatMap, List.flatMap_map]
  refine flatMap_filter fun t => ?_
  rw [edgesWithin]
  simp only [Token.follows_iff]

/-- The edges of a graph are those of the tokens of the formulas in scope, in their order. -/
lemma Sound.edges_graph (h : wb.Sound) (options : GraphOptions) :
    (wb.graph options).edges =
      (wb.tokensIn options.scope).flatMap (wb.edgesWithin options.maxRangeCells) := by
  rw [Graph.edges_eq, (h.graph options).2, Graph.edgesOf, List.flatMap_map, sourcesIn, tokensIn,
    List.flatMap_assoc]
  refine flatMap_filter fun f => ?_
  rw [← map_targets_edge, entry]
  dsimp only
  rw [List.map_map]
  cases wb.targets options f.1 f.2 with
  | nil => rfl
  | cons c cs => rfl

/-- The more a limit lets through, the more edges a token has. -/
lemma edgesWithin_sublist (hle : GraphOptions.LimitLE limit limit') (p : Coord × Token) :
    (wb.edgesWithin limit p).Sublist (wb.edgesWithin limit' p) := by
  by_cases hwithin : p.2.Within limit
  · rw [edgesWithin, edgesWithin, if_pos hwithin, if_pos (hwithin.mono hle)]
  · rw [edgesWithin, if_neg hwithin]
    exact List.nil_sublist _

/-- The edge of a single cell is there under every limit. -/
lemma single_sublist (limit : Option Nat) (p : Coord × Token) :
    (p.2.cell?.map (wb.edge p.1)).toList.Sublist (wb.edgesWithin limit p) := by
  cases hc : p.2.cell? with
  | none => exact List.nil_sublist _
  | some c =>
    obtain ⟨hwithin, hcells⟩ := Token.single_of_cell? hc limit
    rw [edgesWithin, if_pos hwithin, hcells]
    exact List.Sublist.refl _

/-- A token that passes has as many edges as it counts cells, and any other none. -/
lemma length_edgesWithin (h : p.2.LiesIn wb) (hn : wb.sheetCount < 2 ^ 30) (limit : Option Nat) :
    (wb.edgesWithin limit p).length = if p.2.Within limit then p.2.cellCount else 0 := by
  rw [edgesWithin, apply_ite List.length, List.length_map, h.length_cells hn]
  rfl

/-- The tokens of a workbook lie in it. -/
lemma Sound.liesIn_of_mem (h : wb.Sound) (hp : p ∈ wb.tokensIn scope) : p.2.LiesIn wb := by
  obtain ⟨f, hf, hp⟩ := List.mem_flatMap.1 hp
  obtain ⟨t, ht, rfl⟩ := List.mem_map.1 hp
  exact h.tokens_lieIn (h.liesIn_of_formula (mem_formulasIn.1 hf).2).1 ht

/-- A limit on the size of blocks takes whole blocks away and nothing else. Under a greater limit
all edges are still there, in the same order; the size that is compared with the limit is the number
of cells that are listed, and is counted without leaving machine words; and under each limit the
edges of single cells are there, every block has an edge to each of its cells or none, and there are
as many edges as the tokens that pass have cells. -/
theorem graph_limited (h : wb.Reachable) (hn : wb.sheetCount < 2 ^ 30) (scope : Scope) :
    (∀ limit limit', GraphOptions.LimitLE limit limit' →
      (wb.graph ⟨scope, limit⟩).edges.Sublist (wb.graph ⟨scope, limit'⟩).edges) ∧
    (∀ p ∈ wb.tokensIn scope,
      p.2.block.countInWords? = some p.2.cellCount ∧ p.2.cells.length = p.2.cellCount) ∧
    ∀ limit,
      ((wb.tokensIn scope).filterMap fun p => p.2.cell?.map (wb.edge p.1)).Sublist
        (wb.graph ⟨scope, limit⟩).edges ∧
      (wb.graph ⟨scope, limit⟩).edges =
        (wb.tokensIn scope).flatMap (fun p =>
          if p.2.Within limit then p.2.cells.map (wb.edge p.1) else []) ∧
      (wb.graph ⟨scope, limit⟩).edgeCount =
        (((wb.tokensIn scope).filter (·.2.Within limit)).map (·.2.cellCount)).sum := by
  -- Under any limit the edges are those of the tokens one after another.
  have hedges : ∀ limit, (wb.graph ⟨scope, limit⟩).edges =
      (wb.tokensIn scope).flatMap (wb.edgesWithin limit) :=
    fun limit => h.sound.edges_graph ⟨scope, limit⟩
  refine ⟨?_, ?_, fun limit => ⟨?_, hedges limit, ?_⟩⟩
  · intro limit limit' hle
    rw [hedges, hedges]
    exact List.Sublist.flatMap_right _ fun p _ => edgesWithin_sublist hle p
  · intro p hp
    have hlies := h.sound.liesIn_of_mem hp
    exact ⟨Block.countInWords?_eq hlies hn, hlies.length_cells hn⟩
  · rw [hedges, List.filterMap_eq_flatMap_toList]
    exact List.Sublist.flatMap_right _ fun p _ => single_sublist limit p
  · have hlength : (wb.tokensIn scope).map (fun p => (wb.edgesWithin limit p).length) =
        (wb.tokensIn scope).map fun p => if p.2.Within limit then p.2.cellCount else 0 :=
      List.map_congr_left fun p hp => length_edgesWithin (h.sound.liesIn_of_mem hp) hn limit
    rw [← Graph.length_edges, hedges, List.length_flatMap, hlength, List.sum_map_ite]
    simp

/-- A block of three cells, given from its last, is in the graph from the limit 3 on, and one of a
single cell from the limit 1 on. A cell that is no block is in it under the limit 0. -/
theorem graph_limited_boundary :
    let wb := (Workbook.new.after (.set 0 "D1" (.formula "=A3:A1+B2"))).after
      (.set 0 "D2" (.formula "=C1:C1"))
    let edges := fun limit => (wb.graph ⟨.allSheets, limit⟩).edges
    wb.Reachable ∧ wb.sheetCount < 2 ^ 30 ∧ GraphOptions.LimitLE (some 2) (some 3) ∧
      (edges (some 2)).Sublist (edges (some 3)) ∧
      edges (some 0) = [("'Sheet1'!D1", "'Sheet1'!B2")] ∧
      edges (some 2) = [("'Sheet1'!D1", "'Sheet1'!B2"), ("'Sheet1'!D2", "'Sheet1'!C1")] ∧
      (wb.graph ⟨.allSheets, some 3⟩).edgeCount = 5 := by
  intro wb edges
  have h : wb.Reachable := .edit _ (.edit _ .new)
  have hn : wb.sheetCount < 2 ^ 30 := by
    have hcount : wb.sheetCount = 1 := by decide +kernel
    omega
  have hle : GraphOptions.LimitLE (some 2) (some 3) := Nat.le_succ 2
  obtain ⟨hmono, -, hlimit⟩ := graph_limited h hn .allSheets
  have htokens : wb.tokensIn .allSheets =
      [(⟨0, 0, 3⟩, .range (.spanning ⟨0, 2, 0⟩ ⟨0, 0, 0⟩)), (⟨0, 0, 3⟩, .single ⟨0, 1, 1⟩),
        (⟨0, 1, 3⟩, .range (.spanning ⟨0, 0, 2⟩ ⟨0, 0, 2⟩))] := by decide +kernel
  refine ⟨h, hn, hle, hmono _ _ hle, ?_, ?_, ?_⟩
  · exact (hlimit (some 0)).2.1.trans (by rw [htokens]; decide +kernel)
  · exact (hlimit (some 2)).2.1.trans (by rw [htokens]; decide +kernel)
  · exact (hlimit (some 3)).2.2.trans (by rw [htokens]; decide +kernel)

end Workbook

end Precedents
