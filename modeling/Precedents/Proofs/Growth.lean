import Precedents.Proofs.Storage

/-!
# Workbooks that grow

A new sheet has no formulas, takes the place behind all others and is found under a name under which
nothing was found before (`Grows`). So every formula reads what it read, in the same order, and
perhaps cells of the new sheet in between, if it has that name in a qualifier
(`Formula.tokenize_sublist`, `Formula.tokenize_congr`). The graph keeps its sources and its edges
(`graph_grows`).
-/

namespace Precedents

/-! ## More names that are found -/

namespace Formula

/-- The sheet names in a qualifier. -/
def Qualifier.names : Qualifier → List String
  | sheet name => [name]
  | span first last => [first, last]
  | external => []

/-- Whether a formula has a sheet name in a qualifier, in any case. -/
def Mentions (formula name : String) : Prop :=
  ∃ r ∈ (read formula).references, ∃ q, r.qualifier = some q ∧
    ∃ n ∈ q.names, Text.lowercase n = Text.lowercase name

variable {find find' : String → Option Nat} {q : Qualifier} {r : Reference} {t : Token}

/-- A qualifier that resolves goes on to do so when more names are known. -/
lemma Qualifier.ends?_mono (h : ∀ n i, find n = some i → find' n = some i) {ends : Nat × Nat}
    (he : q.ends? find = some ends) : q.ends? find' = some ends := by
  cases q with
  | sheet name =>
    obtain ⟨i, hi, rfl⟩ := Option.map_eq_some_iff.1 he
    exact Option.map_eq_some_iff.2 ⟨i, h name i hi, rfl⟩
  | span first last =>
    obtain ⟨i, hi, he⟩ := Option.bind_eq_some_iff.1 he
    obtain ⟨j, hj, he⟩ := Option.bind_eq_some_iff.1 he
    exact Option.bind_eq_some_iff.2 ⟨i, h first i hi,
      Option.bind_eq_some_iff.2 ⟨j, h last j hj, he⟩⟩
  | external => cases he

/-- A qualifier resolves by its own names alone. -/
lemma Qualifier.ends?_congr (h : ∀ n ∈ q.names, find n = find' n) :
    q.ends? find = q.ends? find' := by
  cases q with
  | sheet name => rw [ends?, ends?, h name List.mem_cons_self]
  | span first last =>
    rw [ends?, ends?, h first List.mem_cons_self,
      h last (List.mem_cons_of_mem _ List.mem_cons_self)]
  | external => rfl

/-- A reference that resolves goes on to do so when more names are known. -/
lemma Reference.token?_mono (h : ∀ n i, find n = some i → find' n = some i) (current : Nat)
    (ht : r.token? find current = some t) : r.token? find' current = some t := by
  unfold token? at ht ⊢
  split at ht
  case h_1 => exact ht
  case h_2 q _ =>
    obtain ⟨ends, hends, rfl⟩ := Option.map_eq_some_iff.1 ht
    exact Option.map_eq_some_iff.2 ⟨ends, Qualifier.ends?_mono h hends, rfl⟩

lemma filterMap_sublist {α β : Type} {f g : α → Option β} {as : List α}
    (h : ∀ a b, f a = some b → g a = some b) : (as.filterMap f).Sublist (as.filterMap g) := by
  induction as with
  | nil => exact .slnil
  | cons a as ih =>
    cases hf : f a with
    | none =>
      rw [List.filterMap_cons_none hf]
      exact ih.trans ((List.sublist_cons_self a as).filterMap g)
    | some b =>
      rw [List.filterMap_cons_some hf, List.filterMap_cons_some (h a b hf)]
      exact ih.cons_cons b

/-- Where more names are found, what a formula read it still reads, in the same order. -/
theorem tokenize_sublist (h : ∀ n i, find n = some i → find' n = some i) (current : Nat)
    (formula : String) :
    (tokenize find current formula).Sublist (tokenize find' current formula) := by
  unfold tokenize
  dsimp only
  split
  case h_1 => exact filterMap_sublist fun r t => Reference.token?_mono h current
  case h_2 => exact .slnil

/-- What a formula reads depends on no other names than those in its qualifiers. -/
theorem tokenize_congr {formula : String} (current : Nat)
    (h : ∀ r ∈ (read formula).references, ∀ q, r.qualifier = some q →
      ∀ n ∈ q.names, find n = find' n) :
    tokenize find current formula = tokenize find' current formula := by
  unfold tokenize
  dsimp only
  split
  case h_1 =>
    refine List.filterMap_congr fun r hr => ?_
    unfold Reference.token?
    split
    case h_1 => rfl
    case h_2 q hq => rw [Qualifier.ends?_congr (h r hr q hq)]
  case h_2 => rfl

end Formula

namespace Workbook

/-- What a new sheet with this name leaves as it was. -/
structure Grows (name : String) (wb wb' : Workbook) : Prop where
  named : ∀ c : Coord, c.sheet < wb.sheetCount → wb'.qualifiedName c = wb.qualifiedName c
  found : ∀ n i, wb.sheetIndex? n = some i → wb'.sheetIndex? n = some i
  others : ∀ n, Text.lowercase n ≠ Text.lowercase name → wb'.sheetIndex? n = wb.sheetIndex? n
  content : wb'.content = wb.content
  active : wb'.active = wb.active

variable {wb wb' : Workbook} {name source : String} {c : Coord} {options : GraphOptions} {i : Nat}

/-- A workbook grows by a sheet whose name it does not have. -/
lemma grows_push (hfree : wb.sheetIndex? name = none) : Grows name wb (wb.push (.empty name)) where
  named c hc := by
    rw [qualifiedName, qualifiedName, sheetName?_push, if_neg (Nat.ne_of_lt hc)]
  found n i hn := by
    rw [sheetIndex?_push, if_neg, hn]
    intro he
    have hfree : wb.byName[Text.lowercase name]? = none := hfree
    rw [he] at hfree
    cases hfree.symm.trans hn
  others n hn := by rw [sheetIndex?_push, if_neg (Ne.symm hn)]
  content := funext fun c => by rw [content_eq_getD, content_eq_getD, cell?_push]
  active := rfl

/-! ## Sources and targets -/

/-- The new sheet has no formulas. -/
lemma Grows.formulasIn (h : Grows name wb wb') (scope : Scope) :
    wb'.formulasIn scope = wb.formulasIn scope := by
  refine formulas_ext (pairwise_formulasIn wb' scope) (pairwise_formulasIn wb scope) ?_
  intro c source
  have hcovers : scope.Covers wb' c ↔ scope.Covers wb c := by
    cases scope with
    | allSheets => exact Iff.rfl
    | activeSheet => exact iff_of_eq (congrArg (c.sheet = ·) h.active)
  rw [mem_formulasIn, mem_formulasIn, hcovers, h.content]

/-- The targets of a formula are kept, in their order. -/
lemma Grows.targets_sublist (h : Grows name wb wb') (c : Coord) (source : String) :
    (wb.targets options c source).Sublist (wb'.targets options c source) :=
  (((Formula.tokenize_sublist h.found c.sheet source).filter _).flatMap _)

/-- A formula that does not mention the new name has the same targets. -/
lemma Grows.targets_eq (h : Grows name wb wb') (hm : ¬ Formula.Mentions source name) (c : Coord) :
    wb'.targets options c source = wb.targets options c source := by
  rw [targets, targets, Formula.tokenize_congr]
  intro r hr q hq n hn
  apply h.others
  exact fun he => hm ⟨r, hr, q, hq, n, hn, he⟩

/-- The sources are kept, in their order. -/
lemma Grows.sources_sublist (h : Grows name wb wb') (options : GraphOptions) :
    (wb.sourcesIn options).Sublist (wb'.sourcesIn options) := by
  rw [sourcesIn, sourcesIn, h.formulasIn]
  refine List.monotone_filter_right _ fun f hf => ?_
  rw [Bool.not_eq_true', List.isEmpty_eq_false_iff] at hf ⊢
  intro hnil
  exact hf (List.sublist_nil.1 (hnil ▸ h.targets_sublist f.1 f.2))

/-- The targets of a cell with a formula, if it is one of the sources. -/
lemma Sound.targets?_graph (h : wb.Sound) (hc : wb.content c = .formula source) :
    (wb.graph options).targets? (wb.qualifiedName c) =
      if (c, source) ∈ wb.sourcesIn options
      then some ((wb.targets options c source).map wb.qualifiedName) else none := by
  obtain ⟨hgraph, hlist⟩ := h.graph options
  split
  case isTrue hmem =>
    apply hgraph.targets?
    rw [hlist]
    exact List.mem_map_of_mem hmem
  case isFalse hmem =>
    rw [Graph.targets?, hgraph.not_mem]
    · rfl
    rw [hlist, List.map_map]
    intro hkey
    obtain ⟨⟨d, source'⟩, hd, he⟩ := List.mem_map.1 hkey
    obtain rfl : d = c := h.qualifiedName_inj he
    have hsame := (mem_sourcesIn.1 hd).2.1.symm.trans hc
    exact hmem (Cell.formula.inj hsame ▸ hd)

/-- The cells that a formula reads have the names that they had. -/
lemma Grows.map_targets (h : Grows name wb wb') (hwb : wb.Sound)
    (hc : wb.content c = .formula source) :
    (wb.targets options c source).map wb'.qualifiedName =
      (wb.targets options c source).map wb.qualifiedName := by
  refine List.map_congr_left fun d hd => h.named d ?_
  obtain ⟨t, ht, hd⟩ := List.mem_flatMap.1 hd
  have hlies := hwb.tokens_lieIn (hwb.liesIn_of_formula hc).1 (List.mem_filter.1 ht).1
  exact (hlies.of_contains (Block.mem_cells.1 hd)).1

/-- A formula that still is a source has the targets that it has in the new workbook. -/
lemma Grows.targets?_graph (h : Grows name wb wb') (hwb : wb.Sound) (hwb' : wb'.Sound)
    (hc : wb.content c = .formula source) :
    (wb'.graph options).targets? (wb.qualifiedName c) =
      if (c, source) ∈ wb'.sourcesIn options
      then some ((wb'.targets options c source).map wb'.qualifiedName) else none := by
  rw [← h.named c (hwb.liesIn_of_formula hc).1]
  exact hwb'.targets?_graph (by rw [h.content, hc])

/-! ## The graph -/

/-- Where a sheet is added, under a given or a free name, every cell keeps its name, every source of
the graph stays one, in the same order, and has the targets that it had, in the same order, and
perhaps others in between. Where its formula does not have the new name in a qualifier, it has no
others. -/
theorem graph_grows (h : wb.Reachable)
    (hadd : wb.add = .ok (i, wb') ∨ ∃ name, wb.addNamed name = .ok (i, wb'))
    (options : GraphOptions) :
    (∀ c : Coord, c.sheet < wb.sheetCount → wb'.qualifiedName c = wb.qualifiedName c) ∧
    ((wb.graph options).toList.map Prod.fst).Sublist
      ((wb'.graph options).toList.map Prod.fst) ∧
    (∀ source targets, (wb.graph options).targets? source = some targets →
      ∃ targets', (wb'.graph options).targets? source = some targets' ∧
        targets.Sublist targets') ∧
    ∀ c formula name, wb.content c = .formula formula → wb'.sheetName? i = some name →
      ¬ Formula.Mentions formula name →
      (wb'.graph options).targets? (wb.qualifiedName c) =
        (wb.graph options).targets? (wb.qualifiedName c) := by
  obtain ⟨name, hname⟩ : ∃ name, wb.addNamed name = .ok (i, wb') := hadd.elim (fun h => ⟨_, h⟩) id
  obtain ⟨hlegal, hfree, rfl, hpush⟩ := addNamed_ok.1 hname
  have hwb := h.sound
  have hwb' : wb'.Sound := hpush ▸ hwb.push hlegal hfree
  have hgrows : Grows name wb wb' := hpush ▸ grows_push hfree
  refine ⟨hgrows.named, ?_, ?_, ?_⟩
  · rw [(hwb.graph options).2, (hwb'.graph options).2, List.map_map, List.map_map]
    -- The old sources have the names that they had.
    have hkeys : (wb.sourcesIn options).map (Prod.fst ∘ wb.entry options) =
        (wb.sourcesIn options).map (Prod.fst ∘ wb'.entry options) := by
      refine List.map_congr_left fun f hf => ?_
      exact (hgrows.named _ (hwb.liesIn_of_formula (mem_sourcesIn.1 hf).2.1).1).symm
    rw [hkeys]
    exact (hgrows.sources_sublist options).map _
  · -- A source that is found is the name of a formula, whose targets can only grow.
    intro source targets ht
    obtain ⟨hgraph, hlist⟩ := hwb.graph options
    have hmem := hgraph.mem_of_targets? ht
    rw [hlist] at hmem
    obtain ⟨⟨c, formula⟩, hf, he⟩ := List.mem_map.1 hmem
    obtain ⟨rfl, rfl⟩ := Prod.mk.inj he
    have hc := (mem_sourcesIn.1 hf).2.1
    have hf' := (hgrows.sources_sublist options).subset hf
    refine ⟨(wb'.targets options c formula).map wb'.qualifiedName, ?_, ?_⟩
    · exact (hgrows.targets?_graph hwb hwb' hc).trans (if_pos hf')
    · rw [← hgrows.map_targets hwb hc]
      exact (hgrows.targets_sublist c formula).map _
  · intro c formula n hc hn hm
    obtain rfl : name = n := by
      rw [hpush, sheetName?_push, if_pos rfl] at hn
      exact Option.some.inj hn
    have hmem : (c, formula) ∈ wb'.sourcesIn options ↔ (c, formula) ∈ wb.sourcesIn options := by
      rw [sourcesIn, sourcesIn, List.mem_filter, List.mem_filter, hgrows.formulasIn,
        hgrows.targets_eq hm]
    rw [hgrows.targets?_graph hwb hwb' hc, hwb.targets?_graph hc, hgrows.targets_eq hm,
      hgrows.map_targets hwb hc]
    simp only [hmem]

/-- A sheet is added under a name that one of two formulas has in a qualifier, in another case. The
cell that this formula read is still among its targets, and the other formula reads what it read. -/
theorem graph_grows_qualified :
    let wb := (Workbook.new.after (.set 0 "A1" (.formula "=Plan!C1+B1"))).after
      (.set 0 "A2" (.formula "=B1"))
    let wb' := wb.push (.empty "PLAN")
    wb.Reachable ∧ wb.addNamed "PLAN" = .ok (1, wb') ∧
      (wb.graph .default).targets? "'Sheet1'!A1" = some ["'Sheet1'!B1"] ∧
      (∃ targets, (wb'.graph .default).targets? "'Sheet1'!A1" = some targets ∧
        ["'Sheet1'!B1"].Sublist targets) ∧
      ¬ Formula.Mentions "=B1" "PLAN" ∧
      (wb'.graph .default).targets? "'Sheet1'!A2" = (wb.graph .default).targets? "'Sheet1'!A2" := by
  intro wb wb'
  have h : wb.Reachable := .edit _ (.edit _ .new)
  have hfind : wb.sheetIndex? = fun n => if Text.lowercase n = "sheet1" then some 0 else none :=
    funext sheetIndex?_new
  have hfree : wb.sheetIndex? "PLAN" = none := by
    rw [hfind]
    decide +kernel
  have hadd : wb.addNamed "PLAN" = .ok (1, wb') :=
    addNamed_ok.2 ⟨by decide, hfree, by decide +kernel, rfl⟩
  have hc : wb.content ⟨0, 0, 0⟩ = .formula "=Plan!C1+B1" := by decide +kernel
  have hc' : wb.content ⟨0, 1, 0⟩ = .formula "=B1" := by decide +kernel
  have hold : (wb.graph .default).targets? "'Sheet1'!A1" = some ["'Sheet1'!B1"] := by
    have hname : wb.qualifiedName ⟨0, 0, 0⟩ = "'Sheet1'!A1" := by decide +kernel
    have htargets : wb.targets .default ⟨0, 0, 0⟩ "=Plan!C1+B1" = [⟨0, 0, 1⟩] := by
      rw [targets, hfind]
      decide +kernel
    rw [← hname, h.sound.targets?_graph hc, if_pos, htargets]
    · decide +kernel
    · rw [sourcesIn, List.mem_filter, mem_formulasIn, htargets]
      exact ⟨⟨trivial, hc⟩, rfl⟩
  have hmentions : ¬ Formula.Mentions "=B1" "PLAN" := by
    rintro ⟨r, hr, q, hq, -⟩
    have hunqualified : ∀ r ∈ (Formula.read "=B1").references, r.qualifier = none := by
      decide +kernel
    rw [hunqualified r hr] at hq
    cases hq
  obtain ⟨-, -, htargets, hothers⟩ := graph_grows h (.inr ⟨"PLAN", hadd⟩) .default
  have hname' : wb.qualifiedName ⟨0, 1, 0⟩ = "'Sheet1'!A2" := by decide +kernel
  refine ⟨h, hadd, hold, htargets _ _ hold, hmentions, ?_⟩
  rw [← hname']
  exact hothers _ _ "PLAN" hc' rfl hmentions

end Workbook

end Precedents
