import Precedents.Proofs.Dot

/-!
# Graphs as ordered multimaps

What is entered goes behind the targets of its source, or to the end of the graph where the source
is new (`Sound.insert_cases`). So whatever is entered, with sources that come again and without
targets, the sources stand in the order in which they first came with a target, and each has all the
targets that were entered for it, one after another (`ofList_multimap`).
-/

namespace Precedents.Graph

variable {g : Graph} {source : String} {targets : List String}
variable {entries inserts : List (String × List String)} {e : String × List String}

/-- All targets that some entries have for a source. -/
def targetsIn (entries : List (String × List String)) (source : String) : List String :=
  (entries.filter (·.1 == source)).flatMap Prod.snd

/-- The sources that have a target, each where it first has one. -/
def sourcesWithTargets (entries : List (String × List String)) : List String :=
  ((entries.filter fun e => !e.2.isEmpty).map Prod.fst).eraseDups

/-! ## One insert -/

/-- What is entered is the last entry if its source is new, and it goes behind the targets of its
source if it is known. -/
lemma Sound.insert_cases (h : g.Sound) (source : String) (hne : targets ≠ []) :
    (source ∉ g.toList.map Prod.fst ∧
      (g.insert source targets).toList = g.toList ++ [(source, targets)]) ∨
    ∃ before known after, g.toList = before ++ (source, known) :: after ∧
      (g.insert source targets).toList = before ++ (source, known ++ targets) :: after := by
  cases hi : g.index[source]? with
  | none =>
    have hnew : source ∉ g.toList.map Prod.fst := by
      intro hmem
      obtain ⟨⟨_, known⟩, he, rfl⟩ := List.mem_map.1 hmem
      have hfound := h.targets? he
      rw [Graph.targets?, hi] at hfound
      cases hfound
    exact .inl ⟨hnew, toList_insert h hnew hne⟩
  | some i =>
    obtain ⟨e, hget, rfl⟩ := Option.map_eq_some_iff.1 ((h source i).1 hi)
    have hget : g.toList[i]? = some e := by rwa [toList, Array.getElem?_toList]
    obtain ⟨hlt, hget⟩ := List.getElem?_eq_some_iff.1 hget
    refine .inr ⟨g.toList.take i, e.2, g.toList.drop (i + 1), ?_, ?_⟩
    · change g.toList = g.toList.take i ++ e :: _
      rw [← hget, List.cons_getElem_drop_succ, List.take_append_drop]
    · rw [insert_known hi hne, toList, Array.toList_modify]
      exact (List.modify_eq_take_cons_drop hlt).trans (by rw [hget])

lemma targetsIn_append (as bs : List (String × List String)) (source : String) :
    targetsIn (as ++ bs) source = targetsIn as source ++ targetsIn bs source := by
  rw [targetsIn, List.filter_append, List.flatMap_append]
  rfl

lemma targetsIn_cons (e : String × List String) (es : List (String × List String))
    (source : String) :
    targetsIn (e :: es) source = (if e.1 = source then e.2 else []) ++ targetsIn es source := by
  by_cases hs : e.1 = source
  · rw [if_pos hs, targetsIn, List.filter_cons, if_pos (beq_iff_eq.2 hs), List.flatMap_cons]
    rfl
  · rw [if_neg hs, targetsIn, List.filter_cons, if_neg (by simpa using hs)]
    rfl

/-- A source that no entry has has no targets. -/
lemma targetsIn_of_not_mem (h : source ∉ entries.map Prod.fst) : targetsIn entries source = [] := by
  rw [targetsIn, List.filter_eq_nil_iff.2, List.flatMap_nil]
  intro e he hs
  exact h (beq_iff_eq.1 hs ▸ List.mem_map_of_mem he)

/-- The targets that are entered for a source come behind those that it has. -/
lemma Sound.targetsIn_insert (h : g.Sound) (e : String × List String) (source : String) :
    targetsIn (g.insert e.1 e.2).toList source = targetsIn (g.toList ++ [e]) source := by
  by_cases hne : e.2 = []
  · rw [Graph.insert, hne, targetsIn_append, targetsIn_cons, hne, ite_self]
    exact (List.append_nil _).symm
  · rcases h.insert_cases e.1 hne with ⟨-, hlist⟩ | ⟨before, known, after, hold, hlist⟩
    · rw [hlist]
    · -- No other entry has this source, so that nothing comes behind its targets.
      have hafter : e.1 ∉ after.map Prod.fst := by
        have hnodup := h.nodup
        rw [hold, List.map_append, List.map_cons] at hnodup
        exact (List.nodup_cons.1 (List.nodup_append.1 hnodup).2.1).1
      rw [hlist, hold]
      simp only [targetsIn_append, targetsIn_cons]
      by_cases hs : e.1 = source
      · subst hs
        rw [targetsIn_of_not_mem hafter]
        simp [targetsIn]
      · simp [hs, targetsIn]

/-- A source stands where it was first entered with a target. -/
lemma Sound.sources_insert (h : g.Sound) (e : String × List String)
    (hsources : g.toList.map Prod.fst = sourcesWithTargets inserts) :
    (g.insert e.1 e.2).toList.map Prod.fst = sourcesWithTargets (inserts ++ [e]) := by
  -- Without targets nothing is entered, and the source does not count as inserted.
  by_cases hne : e.2 = []
  · have hskip : (inserts ++ [e]).filter (fun e => !e.2.isEmpty) =
        inserts.filter fun e => !e.2.isEmpty := by
      simp [hne]
    rw [Graph.insert, sourcesWithTargets, hskip, hne]
    exact hsources
  · have hkeep : (inserts ++ [e]).filter (fun e => !e.2.isEmpty) =
        (inserts.filter fun e => !e.2.isEmpty) ++ [e] := by
      simp [hne]
    have hmem : e.1 ∈ (inserts.filter fun e => !e.2.isEmpty).map Prod.fst ↔
        e.1 ∈ g.toList.map Prod.fst := by
      rw [hsources, sourcesWithTargets, List.mem_eraseDups]
    rw [sourcesWithTargets, hkeep, List.map_append, List.eraseDups_append, List.map_singleton]
    change _ = sourcesWithTargets inserts ++ _
    rw [← hsources]
    -- A new source comes last; a known one keeps its place.
    rcases h.insert_cases e.1 hne with ⟨hnew, hlist⟩ | ⟨before, known, after, hold, hlist⟩
    · have hfirst : [e.1].removeAll ((inserts.filter fun e => !e.2.isEmpty).map Prod.fst) =
          [e.1] := by
        simpa [List.removeAll] using mt hmem.1 hnew
      rw [hfirst, hlist, List.map_append, List.eraseDups_cons]
      rfl
    · have hknown : e.1 ∈ g.toList.map Prod.fst := by simp [hold]
      have hdup : [e.1].removeAll ((inserts.filter fun e => !e.2.isEmpty).map Prod.fst) = [] := by
        simpa [List.removeAll] using hmem.2 hknown
      rw [hdup, hlist, hold]
      simp

/-- An entry adds as many edges as it has targets. -/
lemma Sound.length_insert (h : g.Sound) (e : String × List String) :
    ((g.insert e.1 e.2).toList.map (·.2.length)).sum =
      (g.toList.map (·.2.length)).sum + e.2.length := by
  by_cases hne : e.2 = []
  · rw [Graph.insert, hne]
    rfl
  · rcases h.insert_cases e.1 hne with ⟨-, hlist⟩ | ⟨before, known, after, hold, hlist⟩
    · rw [hlist]
      simp
    · rw [hlist, hold]
      simp only [List.map_append, List.map_cons, List.sum_append, List.sum_cons, List.length_append]
      omega

/-! ## All inserts -/

lemma ofList_concat (inserts : List (String × List String)) (e : String × List String) :
    ofList (inserts ++ [e]) = (ofList inserts).insert e.1 e.2 :=
  List.foldl_append

/-- The graph lists the sources that have targets, in their first order. -/
lemma sources_ofList (inserts : List (String × List String)) :
    (ofList inserts).toList.map Prod.fst = sourcesWithTargets inserts := by
  induction inserts using List.reverseRecOn with
  | nil => rfl
  | append_singleton inserts e ih =>
    rw [ofList_concat]
    exact (sound_ofList inserts).1.sources_insert e ih

/-- The graph has the targets of a source that the inserts have. -/
lemma targetsIn_ofList (inserts : List (String × List String)) (source : String) :
    targetsIn (ofList inserts).toList source = targetsIn inserts source := by
  induction inserts using List.reverseRecOn with
  | nil => rfl
  | append_singleton inserts e ih =>
    rw [ofList_concat, (sound_ofList inserts).1.targetsIn_insert, targetsIn_append,
      targetsIn_append, ih]

/-- The graph has as many targets as the inserts. -/
lemma length_ofList (inserts : List (String × List String)) :
    ((ofList inserts).toList.map (·.2.length)).sum = (inserts.map (·.2.length)).sum := by
  induction inserts using List.reverseRecOn with
  | nil => rfl
  | append_singleton inserts e ih =>
    rw [ofList_concat, (sound_ofList inserts).1.length_insert, ih, List.map_append, List.sum_append]
    rfl

/-- Where no two entries have the same source, each has all the targets of its source. -/
lemma targetsIn_of_mem (h : (entries.map Prod.fst).Nodup) (he : e ∈ entries) :
    targetsIn entries e.1 = e.2 := by
  obtain ⟨before, after, rfl⟩ := List.append_of_mem he
  rw [List.map_append, List.map_cons] at h
  obtain ⟨-, hcons, hapart⟩ := List.nodup_append.1 h
  have hbefore : e.1 ∉ before.map Prod.fst := fun hmem =>
    hapart e.1 hmem e.1 List.mem_cons_self rfl
  have hafter : e.1 ∉ after.map Prod.fst := (List.nodup_cons.1 hcons).1
  rw [targetsIn_append, targetsIn_cons, if_pos rfl, targetsIn_of_not_mem hbefore,
    targetsIn_of_not_mem hafter, List.nil_append, List.append_nil]

/-- Whatever is entered, the entries are the sources with all their targets. -/
lemma toList_ofList (inserts : List (String × List String)) :
    (ofList inserts).toList =
      (sourcesWithTargets inserts).map fun source => (source, targetsIn inserts source) := by
  have hnodup := (sound_ofList inserts).1.nodup
  rw [← sources_ofList, List.map_map]
  refine (List.map_id' _).symm.trans (List.map_congr_left fun e he => ?_)
  change e = (e.1, targetsIn inserts e.1)
  rw [← targetsIn_ofList, targetsIn_of_mem hnodup he]

/-- A source is found with all of its targets, if it has any. -/
lemma targets?_ofList (inserts : List (String × List String)) (source : String) :
    (ofList inserts).targets? source =
      if targetsIn inserts source = [] then none else some (targetsIn inserts source) := by
  obtain ⟨hsound, htargets⟩ := sound_ofList inserts
  by_cases hmem : source ∈ (ofList inserts).toList.map Prod.fst
  · obtain ⟨e, he, rfl⟩ := List.mem_map.1 hmem
    have hall : targetsIn inserts e.1 = e.2 := by
      rw [← targetsIn_ofList, targetsIn_of_mem hsound.nodup he]
    rw [hall, if_neg (htargets e he)]
    exact hsound.targets? he
  · rw [← targetsIn_ofList, targetsIn_of_not_mem hmem, if_pos rfl, Graph.targets?,
      hsound.not_mem hmem]
    rfl

/-- The edges are counted entry by entry. -/
lemma edgeCount_eq (g : Graph) : g.edgeCount = (g.toList.map (·.2.length)).sum := by
  rw [edgeCount, List.sum_eq_foldl, List.foldl_map]

/-- As many edges are listed as are counted. -/
lemma length_edges (g : Graph) : g.edges.length = g.edgeCount := by
  rw [edges_eq, edgesOf, List.length_flatMap, edgeCount_eq]
  simp

/-- A graph is an ordered multimap. Whatever is entered, with sources that come again and lists
without targets anywhere, the sources are those that came with a target, in the order in which they
first did; a source has all the targets that were entered for it, one after another, and is not
found if there are none; every target that was entered is counted and listed as an edge; the index
finds each source at its place and nothing else; and the entries of the graph make up the same graph
again. -/
theorem ofList_multimap (inserts : List (String × List String)) :
    (ofList inserts).toList =
      (sourcesWithTargets inserts).map (fun source => (source, targetsIn inserts source)) ∧
    (∀ source, (ofList inserts).targets? source =
      if targetsIn inserts source = [] then none else some (targetsIn inserts source)) ∧
    (ofList inserts).edgeCount = (inserts.map (·.2.length)).sum ∧
    (ofList inserts).edges.length = (ofList inserts).edgeCount ∧
    (ofList inserts).edges = (sourcesWithTargets inserts).flatMap (fun source =>
      (targetsIn inserts source).map (source, ·)) ∧
    (∀ (source : String) (i : Nat), (ofList inserts).index[source]? = some i ↔
      ((ofList inserts).entries[i]?).map Prod.fst = some source) ∧
    (ofList (ofList inserts).toList == ofList inserts) = true := by
  obtain ⟨hsound, htargets⟩ := sound_ofList inserts
  refine ⟨toList_ofList inserts, targets?_ofList inserts, ?_, length_edges _, ?_, hsound, ?_⟩
  · rw [edgeCount_eq, length_ofList]
  · rw [edges_eq, toList_ofList, edgesOf, List.flatMap_map]
  · have hnames : (ofList inserts).toList.Pairwise (fun a b => a.1 ≠ b.1) :=
      List.pairwise_map.1 hsound.nodup
    rw [beq_iff, (ofList_entries hnames).2, List.filter_eq_self]
    intro e he
    simpa using htargets e he

end Precedents.Graph
