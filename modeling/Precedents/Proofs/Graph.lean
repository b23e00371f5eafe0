import Mathlib
import Precedents.Graph

/-!
# Graphs of entries

A graph whose index finds exactly its sources stays one when a source is entered, be it new or known
(`Sound.insert`), and no source is ever left without targets (`HasTargets.insert`). So whatever is
entered, no two entries of the graph have the same source (`Sound.nodup`). A list of entries with
different sources makes up the graph that lists those entries, without the ones that have no
targets, and finds each of them by its source (`ofList_entries`).
-/

namespace Precedents.Graph

/-- The index finds the sources at their places and nothing else. -/
def Sound (g : Graph) : Prop :=
  ∀ (source : String) (i : Nat),
    g.index[source]? = some i ↔ (g.entries[i]?).map Prod.fst = some source

variable {g : Graph} {source : String} {targets : List String}
variable {entries : List (String × List String)}

lemma Sound.empty : Graph.empty.Sound := by
  intro source i
  simp [Graph.empty]

/-- A source that no entry has is not in the index. -/
lemma Sound.not_mem (h : g.Sound) (hnew : source ∉ g.toList.map (·.1)) :
    g.index[source]? = none := by
  rw [Option.eq_none_iff_forall_ne_some]
  intro i hi
  obtain ⟨e, he, rfl⟩ := Option.map_eq_some_iff.1 ((h _ _).1 hi)
  apply hnew
  exact List.mem_map.2 ⟨e, Array.mem_toList_iff.2 (Array.mem_of_getElem? he), rfl⟩

/-- A new source gets an entry at the end, and its place in the index. -/
lemma insert_eq (h : g.Sound) (hnew : source ∉ g.toList.map (·.1)) (hne : targets ≠ []) :
    g.insert source targets =
      ⟨g.entries.push (source, targets), g.index.insert source g.entries.size⟩ := by
  have hempty : targets.isEmpty = false := by simpa using hne
  rw [insert, hempty, if_neg Bool.false_ne_true, h.not_mem hnew]

/-- A new source is listed last. -/
lemma toList_insert (h : g.Sound) (hnew : source ∉ g.toList.map (·.1)) (hne : targets ≠ []) :
    (g.insert source targets).toList = g.toList ++ [(source, targets)] := by
  rw [insert_eq h hnew hne, toList, toList, Array.toList_push]

/-- A new source keeps the index sound. -/
lemma Sound.insert_new (h : g.Sound) (hnew : source ∉ g.toList.map (·.1)) (hne : targets ≠ []) :
    (g.insert source targets).Sound := by
  intro key i
  rw [insert_eq h hnew hne, Std.HashMap.getElem?_insert, Array.getElem?_push]
  by_cases hi : i = g.entries.size
  · subst hi
    have hsize : g.index[key]? ≠ some g.entries.size := by
      rw [ne_eq, h]
      simp
    by_cases hk : source = key
    · simp [hk]
    · simp [hk, hsize]
  · rw [if_neg hi]
    by_cases hk : source = key
    · subst hk
      rw [← h, h.not_mem hnew]
      simp [Ne.symm hi]
    · rw [← h, if_neg (by simpa using hk)]

/-- The targets of a known source are added to its entry. -/
lemma insert_known {i : Nat} (hi : g.index[source]? = some i) (hne : targets ≠ []) :
    g.insert source targets =
      ⟨g.entries.modify i fun e => (e.1, e.2 ++ targets), g.index⟩ := by
  have hempty : targets.isEmpty = false := by simpa using hne
  rw [Graph.insert, hempty, if_neg Bool.false_ne_true, hi]

/-- Entering a source, be it new or known, keeps the index sound. -/
lemma Sound.insert (h : g.Sound) (source : String) (targets : List String) :
    (g.insert source targets).Sound := by
  by_cases hne : targets = []
  · rw [Graph.insert, hne]
    exact h
  · cases hi : g.index[source]? with
    | none =>
      apply h.insert_new _ hne
      intro hmem
      obtain ⟨e, he, rfl⟩ := List.mem_map.1 hmem
      obtain ⟨i, hget⟩ := List.mem_iff_getElem?.1 he
      have hget : g.entries[i]? = some e := by rwa [toList, Array.getElem?_toList] at hget
      have hindex := (h e.1 i).2 (by rw [hget]; rfl)
      rw [hi] at hindex
      exact absurd hindex (by simp)
    | some i =>
      -- The sources stay where they are; only targets are added.
      intro key j
      rw [insert_known hi hne, Array.getElem?_modify]
      refine (h key j).trans (iff_of_eq (congrArg (· = some key) ?_))
      split
      · rw [Option.map_map]
        rfl
      · rfl

/-- What is entered one after another, with new sources, is listed in that order. -/
lemma foldl_insert (h : g.Sound) (hnew : (g.toList ++ entries).Pairwise (fun a b => a.1 ≠ b.1)) :
    (entries.foldl (fun g e => g.insert e.1 e.2) g).Sound ∧
      (entries.foldl (fun g e => g.insert e.1 e.2) g).toList =
        g.toList ++ entries.filter (fun e => !e.2.isEmpty) := by
  induction entries generalizing g with
  | nil => exact ⟨h, (List.append_nil _).symm⟩
  | cons e entries ih =>
    rw [List.foldl_cons]
    have hsource : e.1 ∉ g.toList.map (·.1) := by
      intro hmem
      obtain ⟨e', he', heq⟩ := List.mem_map.1 hmem
      exact (List.pairwise_append.1 hnew).2.2 e' he' e List.mem_cons_self heq
    -- An entry without targets leaves the graph as it is.
    by_cases hne : e.2 = []
    · have hskip : g.insert e.1 e.2 = g := by rw [Graph.insert, hne]; rfl
      have hfilter : (e :: entries).filter (fun e => !e.2.isEmpty) =
          entries.filter (fun e => !e.2.isEmpty) := by
        rw [List.filter_cons_of_neg]
        simp [hne]
      rw [hskip, hfilter]
      exact ih h (hnew.sublist ((List.sublist_cons_self e entries).append_left g.toList))
    · have hfilter : (e :: entries).filter (fun e => !e.2.isEmpty) =
          e :: entries.filter (fun e => !e.2.isEmpty) := by
        rw [List.filter_cons_of_pos]
        simp [hne]
      rw [hfilter, List.append_cons, ← toList_insert h hsource hne]
      apply ih (h.insert_new hsource hne)
      rw [toList_insert h hsource hne, ← List.append_cons]
      exact hnew

/-- A list of entries with different sources makes up a graph of those that have targets. -/
theorem ofList_entries (h : entries.Pairwise (fun a b => a.1 ≠ b.1)) :
    (ofList entries).Sound ∧ (ofList entries).toList = entries.filter (fun e => !e.2.isEmpty) :=
  foldl_insert .empty h

/-- No two entries of a sound graph have the same source. -/
lemma Sound.nodup (h : g.Sound) : (g.toList.map Prod.fst).Nodup := by
  have hindex : ∀ (i : Nat) (source : String), (g.toList.map Prod.fst)[i]? = some source →
      g.index[source]? = some i := by
    intro i source hi
    rw [List.getElem?_map, toList, Array.getElem?_toList] at hi
    exact (h source i).2 hi
  rw [List.Nodup, List.pairwise_iff_getElem]
  intro i j hi hj hlt he
  have hi := hindex i _ (List.getElem?_eq_getElem hi)
  have hj := hindex j _ (List.getElem?_eq_getElem hj)
  rw [he, hj] at hi
  exact Nat.ne_of_gt hlt (Option.some.inj hi)

/-- Every source has a target. -/
def HasTargets (g : Graph) : Prop := ∀ e ∈ g.toList, e.2 ≠ []

/-- An entry that is made or changed has targets. -/
lemma HasTargets.insert (h : g.HasTargets) (source : String) (targets : List String) :
    (g.insert source targets).HasTargets := by
  by_cases hne : targets = []
  · rw [Graph.insert, hne]
    exact h
  · have hempty : targets.isEmpty = false := by simpa using hne
    cases hi : g.index[source]? with
    | none =>
      intro e he
      rw [Graph.insert, hempty, if_neg Bool.false_ne_true, hi, toList, Array.toList_push] at he
      rcases List.mem_append.1 he with he | he
      · exact h e he
      · rw [List.mem_singleton.1 he]
        exact hne
    | some i =>
      intro e he
      rw [insert_known hi hne, toList, Array.toList_modify] at he
      obtain ⟨j, hj⟩ := List.mem_iff_getElem?.1 he
      rw [List.getElem?_modify] at hj
      split at hj
      · obtain ⟨e', -, rfl⟩ := Option.map_eq_some_iff.1 hj
        simp [hne]
      · exact h e (List.mem_of_getElem? ((id_map _).symm.trans hj))

/-- Whatever is entered, the index finds the sources and each of them has targets. -/
theorem sound_ofList (entries : List (String × List String)) :
    (ofList entries).Sound ∧ (ofList entries).HasTargets := by
  suffices h : ∀ g : Graph, g.Sound → g.HasTargets →
      (entries.foldl (fun g e => g.insert e.1 e.2) g).Sound ∧
        (entries.foldl (fun g e => g.insert e.1 e.2) g).HasTargets from
    h _ .empty (by simp [HasTargets, toList, Graph.empty])
  induction entries with
  | nil => exact fun g hs hi => ⟨hs, hi⟩
  | cons e entries ih => exact fun g hs hi => ih _ (hs.insert e.1 e.2) (hi.insert e.1 e.2)

/-- In a sound graph an entry is found by its source. -/
lemma Sound.targets? (h : g.Sound) (he : (source, targets) ∈ g.toList) :
    g.targets? source = some targets := by
  obtain ⟨i, hi⟩ := List.mem_iff_getElem?.1 he
  have hi : g.entries[i]? = some (source, targets) := by rwa [toList, Array.getElem?_toList] at hi
  have hindex : g.index[source]? = some i := by
    rw [h, hi]
    rfl
  rw [Graph.targets?, hindex, Option.bind_some, hi]
  rfl

/-- What a sound graph finds for a source are the targets of an entry. -/
lemma Sound.mem_of_targets? (h : g.Sound) (ht : g.targets? source = some targets) :
    (source, targets) ∈ g.toList := by
  obtain ⟨i, hi, ht⟩ := Option.bind_eq_some_iff.1 ht
  obtain ⟨e, he, rfl⟩ := Option.map_eq_some_iff.1 ht
  have hsource := (h source i).1 hi
  rw [he] at hsource
  obtain rfl : e.1 = source := Option.some.inj hsource
  exact Array.mem_toList_iff.2 (Array.mem_of_getElem? he)

end Precedents.Graph
