import Precedents.Graph.Dot
import Precedents.Proofs.Graph

/-!
# Reading DOT text

A reader of the DOT text of a graph. It takes one name between quotation marks at a time, in which a
backslash stands for the character behind it, and finds the edges in their order (`readDot_toDot`).
Gathered by source the edges make up the entries again (`gather_edges`), since no two entries have
the same source and none is without targets. So a graph is determined by its text
(`toDot_eq_iff`), whatever characters its names hold.
-/

namespace Precedents.Graph

variable {text name rest : List Char} {edge : String × String}
variable {source : String} {targets : List String} {entries : List (String × List String)}

/-! ## Reading -/

/-- The name up to the quotation mark that closes it, where a backslash stands for the character
behind it, and the text after the mark. -/
def readName : List Char → Option (List Char × List Char)
  | [] => none
  | '"' :: cs => some ([], cs)
  | '\\' :: c :: cs => (readName cs).map fun (name, rest) => (c :: name, rest)
  | c :: cs => (readName cs).map fun (name, rest) => (c :: name, rest)

/-- The edge that the text begins with, and the text after its line. -/
def readEdge (text : List Char) : Option ((String × String) × List Char) := do
  let text ← ['"'].isPrefixOf? text
  let (source, text) ← readName text
  let text ← " -> \"".toList.isPrefixOf? text
  let (target, text) ← readName text
  let text ← ";\n".toList.isPrefixOf? text
  return ((String.ofList source, String.ofList target), text)

lemma isPrefixOf?_append (w z : List Char) : w.isPrefixOf? (w ++ z) = some z :=
  List.isPrefixOf?_eq_some_iff_append_eq.2 rfl

/-- What is left behind a name is the end of the text. -/
lemma readName_suffix (h : readName text = some (name, rest)) : rest <:+ text := by
  fun_induction readName text generalizing name with
  | case1 => simp at h
  | case2 cs =>
    obtain ⟨-, rfl⟩ := Prod.mk.inj (Option.some.inj h)
    exact List.suffix_cons _ _
  | case3 c cs ih =>
    obtain ⟨⟨n, r⟩, hn, he⟩ := Option.map_eq_some_iff.1 h
    obtain ⟨-, rfl⟩ := Prod.mk.inj he
    exact (ih hn).trans ⟨['\\', c], rfl⟩
  | case4 c cs _ _ ih =>
    obtain ⟨⟨n, r⟩, hn, he⟩ := Option.map_eq_some_iff.1 h
    obtain ⟨-, rfl⟩ := Prod.mk.inj he
    exact (ih hn).trans (List.suffix_cons _ _)

/-- What is left behind an edge is shorter than the text. -/
lemma readEdge_lt (h : readEdge text = some (edge, rest)) : rest.length < text.length := by
  simp only [readEdge, Option.bind_eq_bind, Option.bind_eq_some_iff, Prod.exists,
    List.isPrefixOf?_eq_some_iff_append_eq] at h
  obtain ⟨_, rfl, _, _, hs, _, rfl, _, _, ht, _, rfl, he⟩ := h
  obtain ⟨-, rfl⟩ := Prod.mk.inj (Option.some.inj he)
  have hs := (readName_suffix hs).length_le
  have ht := (readName_suffix ht).length_le
  simp only [List.length_append, List.length_cons] at hs ht ⊢
  omega

/-- The edges of some lines, up to the brace that closes the graph. -/
def readEdges (text : List Char) : Option (List (String × String)) :=
  match h : readEdge text with
  | some (edge, rest) =>
    have := readEdge_lt h
    (readEdges rest).map (edge :: ·)
  | none => if text = ['}'] then some [] else none
termination_by text.length

/-- The edges that a DOT text lists. -/
def readDot (dot : String) : Option (List (String × String)) :=
  ("digraph G \x7b\n".toList.isPrefixOf? dot.toList).bind readEdges

/-! ## Reading what was written -/

/-- A name is read back up to the mark behind it. -/
lemma readName_escape (cs rest : List Char) :
    readName (escape cs ++ '"' :: rest) = some (cs, rest) := by
  induction cs with
  | nil => rfl
  | cons c cs ih =>
    rw [escape]
    split
    case isTrue => rw [List.cons_append, List.cons_append, readName, ih]; rfl
    case isFalse hc =>
      rw [not_or] at hc
      rw [List.cons_append, readName, ih]
      · rfl
      · exact hc.1
      · rintro _ _ rfl
        exact absurd rfl hc.2

/-- The line of an edge is read as that edge, whatever stands behind it. -/
lemma readEdge_edgeLine (edge : String × String) (rest : List Char) :
    readEdge (edgeLine edge ++ rest) = some (edge, rest) := by
  have hline : edgeLine edge ++ rest = ['"'] ++ (escape edge.1.toList ++ '"' ::
      (" -> \"".toList ++ (escape edge.2.toList ++ '"' :: (";\n".toList ++ rest)))) := by
    simp [edgeLine]
  rw [hline]
  simp only [readEdge, isPrefixOf?_append, readName_escape, Option.bind_eq_bind, Option.bind_some,
    String.ofList_toList, Option.pure_def]

/-- The lines of edges up to the closing brace are read as these edges. -/
lemma readEdges_edgeLines (edges : List (String × String)) :
    readEdges (edges.flatMap edgeLine ++ ['}']) = some edges := by
  induction edges with
  | nil =>
    rw [List.flatMap_nil, List.nil_append, readEdges]
    rfl
  | cons edge edges ih =>
    have hedge := readEdge_edgeLine edge (edges.flatMap edgeLine ++ ['}'])
    rw [List.flatMap_cons, List.append_assoc, readEdges]
    split
    case h_1 edge' rest he =>
      rw [hedge] at he
      obtain ⟨rfl, rfl⟩ := Prod.mk.inj (Option.some.inj he)
      rw [ih]
      rfl
    case h_2 he =>
      rw [hedge] at he
      exact absurd he (Option.some_ne_none _)

/-- The text of a graph: its head, a line for each edge, and the closing brace. -/
lemma toList_toDot (g : Graph) :
    g.toDot.toList = "digraph G \x7b\n".toList ++ (g.edges.flatMap edgeLine ++ ['}']) := by
  rw [← List.append_assoc]
  exact String.toList_ofList

/-- The edges of a graph are found in its text, in their order. -/
theorem readDot_toDot (g : Graph) : readDot g.toDot = some g.edges := by
  unfold readDot
  rw [toList_toDot, isPrefixOf?_append, Option.bind_some, readEdges_edgeLines]

/-! ## Edges and entries -/

/-- The entries that some edges make up: each source once, where it first stands, with its targets
in their order. -/
def gather (edges : List (String × String)) : List (String × List String) :=
  (edges.map Prod.fst).eraseDups.map fun source =>
    (source, (edges.filter (·.1 == source)).map Prod.snd)

/-- The edges of some entries, one after another. -/
def edgesOf (entries : List (String × List String)) : List (String × String) :=
  entries.flatMap fun (source, targets) => targets.map (source, ·)

/-- The edges of a graph are those of its entries. -/
lemma edges_eq (g : Graph) : g.edges = edgesOf g.toList := rfl

/-- Every edge begins at the source of an entry. -/
lemma mem_edgesOf_source (h : edge ∈ edgesOf entries) : edge.1 ∈ entries.map Prod.fst := by
  obtain ⟨e, he, hmem⟩ := List.mem_flatMap.1 h
  obtain ⟨target, -, rfl⟩ := List.mem_map.1 hmem
  exact List.mem_map_of_mem he

/-- A name that is no source has no edges. -/
lemma filter_edgesOf (h : source ∉ entries.map Prod.fst) :
    (edgesOf entries).filter (·.1 == source) = [] := by
  rw [List.filter_eq_nil_iff]
  intro edge hedge he
  exact h (beq_iff_eq.1 he ▸ mem_edgesOf_source hedge)

/-- The targets of a source are had back from its edges. -/
lemma map_filter_targets (source : String) (targets : List String) :
    ((targets.map (source, ·)).filter (·.1 == source)).map Prod.snd = targets := by
  rw [List.filter_eq_self.2 (by simp)]
  simp

/-- Edges of one source are none of another. -/
lemma filter_targets {source' : String} (h : source' ≠ source) (targets : List String) :
    (targets.map (source, ·)).filter (·.1 == source') = [] := by
  rw [List.filter_eq_nil_iff]
  intro edge hedge he
  obtain ⟨target, -, rfl⟩ := List.mem_map.1 hedge
  exact h (beq_iff_eq.1 he).symm

/-- A source with targets stands once in front of sources that differ from it. -/
lemma eraseDups_sources (h : source ∉ entries.map Prod.fst) (hne : targets ≠ []) :
    ((targets.map (source, ·) ++ edgesOf entries).map Prod.fst).eraseDups =
      source :: ((edgesOf entries).map Prod.fst).eraseDups := by
  obtain ⟨target, targets, rfl⟩ := List.exists_cons_of_ne_nil hne
  rw [List.map_cons, List.cons_append, List.map_cons, List.eraseDups_cons, List.map_append,
    List.filter_append, List.filter_eq_nil_iff.2, List.nil_append, List.filter_eq_self.2]
  · intro source' hmem
    obtain ⟨edge, hedge, rfl⟩ := List.mem_map.1 hmem
    have hne : edge.1 ≠ source := fun he => h (he ▸ mem_edgesOf_source hedge)
    simpa using hne
  · simp

/-- The edges of entries with different sources, none of them without targets, make up the entries
again. -/
lemma gather_edgesOf (hnodup : (entries.map Prod.fst).Nodup) (hne : ∀ e ∈ entries, e.2 ≠ []) :
    gather (edgesOf entries) = entries := by
  induction entries with
  | nil => rfl
  | cons e entries ih =>
    obtain ⟨source, targets⟩ := e
    obtain ⟨hsource, hnodup⟩ := List.nodup_cons.1 hnodup
    have hsource : source ∉ entries.map Prod.fst := hsource
    have hcons : edgesOf ((source, targets) :: entries) =
        targets.map (source, ·) ++ edgesOf entries := rfl
    have ih := ih hnodup fun e he => hne e (List.mem_cons_of_mem _ he)
    rw [gather, hcons, eraseDups_sources hsource (hne _ List.mem_cons_self), List.map_cons,
      List.filter_append, List.map_append, map_filter_targets, filter_edgesOf hsource, List.map_nil,
      List.append_nil]
    -- For the other sources the edges of this one do not count.
    refine congrArg ((source, targets) :: ·) (Eq.trans ?_ ih)
    apply List.map_congr_left
    intro source' hmem
    obtain ⟨edge, hedge, rfl⟩ := List.mem_map.1 (List.mem_eraseDups.1 hmem)
    have hne : edge.1 ≠ source := fun he => hsource (he ▸ mem_edgesOf_source hedge)
    rw [List.filter_append, filter_targets hne, List.nil_append]

/-- Whatever is entered, the edges of a graph, gathered by source, are its entries. -/
lemma gather_edges (inserts : List (String × List String)) :
    gather (ofList inserts).edges = (ofList inserts).toList := by
  obtain ⟨hsound, htargets⟩ := sound_ofList inserts
  exact gather_edgesOf hsound.nodup htargets

/-- Graphs are equal if they have the same entries in the same order. -/
lemma beq_iff {g h : Graph} : (g == h) = true ↔ g.toList = h.toList := by
  rw [toList, toList, Array.toList_inj]
  exact beq_iff_eq (a := g.entries) (b := h.entries)

/-! ## Text and graph -/

/-- Two graphs have the same text exactly if they are equal, whatever was entered: a reader of the
text finds the edges, and the edges gathered by source are the entries. -/
theorem toDot_eq_iff (inserts inserts' : List (String × List String)) :
    ((ofList inserts).toDot = (ofList inserts').toDot ↔
      (ofList inserts == ofList inserts') = true) ∧
    readDot (ofList inserts).toDot = some (ofList inserts).edges ∧
    (readDot (ofList inserts).toDot).map gather = some (ofList inserts).toList := by
  have hread : ∀ inserts, (readDot (ofList inserts).toDot).map gather =
      some (ofList inserts).toList := by
    intro inserts
    rw [readDot_toDot, Option.map_some, gather_edges]
  refine ⟨⟨fun h => ?_, fun h => ?_⟩, readDot_toDot _, hread inserts⟩
  · rw [beq_iff]
    apply Option.some.inj
    rw [← hread, ← hread, h]
  · have hedges : (ofList inserts).edges = (ofList inserts').edges := by
      rw [edges_eq, edges_eq, beq_iff.1 h]
    apply String.toList_inj.1
    rw [toList_toDot, toList_toDot, hedges]

end Precedents.Graph
