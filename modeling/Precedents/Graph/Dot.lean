import Precedents.Graph

/-!
# DOT text

A graph as a digraph of the DOT language: one line for each edge, with the names of the nodes
between quotation marks. Within a name a quotation mark and a backslash have a backslash put before
them.
-/

namespace Precedents.Graph

/-- A node name as it stands between quotation marks. -/
def escape : List Char → List Char
  | [] => []
  | c :: cs => if c = '"' ∨ c = '\\' then '\\' :: c :: escape cs else c :: escape cs

/-- The line of an edge. -/
def edgeLine (edge : String × String) : List Char :=
  ['"'] ++ escape edge.1.toList ++ "\" -> \"".toList ++ escape edge.2.toList ++ "\";\n".toList

/-- The DOT text of a graph, without a line end after it. -/
def toDot (g : Graph) : String :=
  String.ofList ("digraph G \x7b\n".toList ++ g.edges.flatMap edgeLine ++ ['}'])

end Precedents.Graph
