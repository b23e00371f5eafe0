import Std.Data.HashMap.Basic

/-!
# Dependency graphs

Which cells read which: for each source its targets. Sources stand in the order in which they were
first entered, targets in the order they were found, repeats included. A source without targets is
not entered. Two graphs are equal if they list the same entries in the same order.
-/

namespace Precedents

/-- The entries of a graph and the index of its sources. -/
structure Graph where
  entries : Array (String × List String)
  index : Std.HashMap String Nat

namespace Graph

/-- The graph without edges. -/
def empty : Graph := ⟨#[], ∅⟩

/-- Enters that a source reads some targets, after those it is known to read. -/
def insert (g : Graph) (source : String) (targets : List String) : Graph :=
  if targets.isEmpty then g
  else match g.index[source]? with
    | some i => { g with entries := g.entries.modify i fun e => (e.1, e.2 ++ targets) }
    | none =>
      let next := g.entries.size
      { entries := g.entries.push (source, targets), index := g.index.insert source next }

/-- The graph of a list of entries, entered one after another. -/
def ofList (entries : List (String × List String)) : Graph :=
  entries.foldl (fun g e => g.insert e.1 e.2) empty

/-- The entries in their order. -/
def toList (g : Graph) : List (String × List String) := g.entries.toList

/-- The number of sources. -/
def size (g : Graph) : Nat := g.entries.size

/-- Whether there are no edges. -/
def isEmpty (g : Graph) : Bool := g.entries.isEmpty

/-- The targets of a source, if it has any. -/
def targets? (g : Graph) (source : String) : Option (List String) :=
  g.index[source]?.bind fun i => g.entries[i]?.map (·.2)

/-- The edges in their order. -/
def edges (g : Graph) : List (String × String) :=
  g.toList.flatMap fun (source, targets) => targets.map (source, ·)

/-- The number of edges, counting repeats. -/
def edgeCount (g : Graph) : Nat := g.toList.foldl (fun n entry => n + entry.2.length) 0

instance : BEq Graph where
  beq a b := a.entries == b.entries

end Graph

end Precedents
