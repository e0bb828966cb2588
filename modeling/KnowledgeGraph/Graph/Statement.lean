import KnowledgeGraph.Json.Basic

/-!
# Statements

What is handed to the graph store: the text of a statement, the values bound to its parameters
and the columns of its answer. Values that come from a client are only ever bound.
-/

namespace KnowledgeGraph.Graph

structure Statement where
  text : String
  params : Json.Members
  columns : List String

def Statement.ofLines (lines : List String) (params : List (String × Json))
    (columns : List String) : Statement :=
  ⟨"\n".intercalate lines, Json.Members.ofPairs params, columns⟩

def braced (entries : String) : String := "\x7b" ++ entries ++ "\x7d"

def nodeProjection (var : String) : String :=
  braced ("Id: id(" ++ var ++ "), ElementId: elementId(" ++ var ++ "), Labels: labels(" ++ var ++
    "), Props: properties(" ++ var ++ ")")

def relationshipProjection (var : String) : String :=
  braced ("Id: id(" ++ var ++ "), ElementId: elementId(" ++ var ++
    "), StartId: id(startNode(" ++ var ++ ")), StartElementId: elementId(startNode(" ++ var ++
    ")), EndId: id(endNode(" ++ var ++ ")), EndElementId: elementId(endNode(" ++ var ++
    ")), Type: type(" ++ var ++ "), Props: properties(" ++ var ++ ")")

def expansionColumns : List String := ["node", "relationships", "affiliatedNodes"]

/-- The lines that follow `node` along outgoing paths of at most `depth` steps. -/
def expansion (depth : Nat) : List String :=
  ["OPTIONAL MATCH (node)-[r*1.." ++ Nat.repr depth ++ "]->(m)",
   "UNWIND coalesce(r, [null]) AS rel",
   "WITH node, collect(DISTINCT rel) AS rels, collect(DISTINCT m) AS affiliates",
   "RETURN " ++ nodeProjection "node" ++ " AS node,",
   "[rel IN rels | " ++ relationshipProjection "rel" ++ "] AS relationships,",
   "[a IN affiliates | " ++ nodeProjection "a" ++ "] AS affiliatedNodes"]

def expansionText (depth : Nat) : String := "\n".intercalate (expansion depth)

def Statement.ping : Statement := .ofLines ["RETURN 1 AS ok"] [] ["ok"]

end KnowledgeGraph.Graph
