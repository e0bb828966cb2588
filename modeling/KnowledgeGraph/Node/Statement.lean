import KnowledgeGraph.Graph.Identifier
import KnowledgeGraph.Graph.Statement
import KnowledgeGraph.Number.Limits

/-!
# Statements about nodes
-/

namespace KnowledgeGraph.Node

open KnowledgeGraph.Graph

/-- The key of a filter that is on the element id and not on a property. -/
def elementIdKey : String := "elementId"

def filterParam (index : Nat) : String := "prop_" ++ Nat.repr index

def condition (index : Nat) (key : String) : Except Error String := do
  let key := Text.trim key
  if key = elementIdKey then return "elementId(node) = $" ++ filterParam index
  else return "node." ++ (← quote key) ++ " = $" ++ filterParam index

def conditions (start : Nat) : List String → Except Error (List String)
  | [] => .ok []
  | key :: keys => do
    let first ← condition start key
    let rest ← conditions (start + 1) keys
    return first :: rest

def matching (labels : List String) (filters : Json.Members) (depth : Nat) :
    Except Error Statement := do
  let conds ← conditions 0 (filters.map (·.1))
  let expression ← labelExpression labels
  let lines := ["MATCH (node" ++ expression ++ ")"] ++
    (if conds.isEmpty then [] else ["WHERE " ++ " AND ".intercalate conds]) ++ expansion depth
  return .ofLines lines (filters.zipIdx.map fun ((_, v), i) => (filterParam i, v)) expansionColumns

def nearest (index : String) (embedding : List Binary64) (depth : Nat) : Statement :=
  .ofLines (["CALL db.index.vector.queryNodes($index, 1, $embedding)", "YIELD node, score"] ++
      expansion depth)
    [("index", .str index), ("embedding", .arr (embedding.map .float))] expansionColumns

def similarityColumns : List String := ["name", "description", "id", "score"]

def similarityResult : String :=
  "RETURN node.name AS name, node.description AS description, elementId(node) AS id, score"

/-- The nodes most similar to a node. One more candidate is asked for than will be returned, for
the node itself is among them. -/
def similarToNode (index nodeId : String) (limit : Nat) : Statement :=
  .ofLines ["MATCH (n)", "WHERE elementId(n) = $nodeId",
      "CALL db.index.vector.queryNodes($index, $candidates, n.embedding)", "YIELD node, score",
      "WHERE elementId(node) <> $nodeId", similarityResult, "ORDER BY score DESC", "LIMIT $limit"]
    [("index", .str index), ("nodeId", .str nodeId),
      ("candidates", .nat (min (limit + 1) maxNat32)), ("limit", .nat limit)]
    similarityColumns

def similarToEmbedding (index : String) (embedding : List Binary64) (limit : Nat) : Statement :=
  .ofLines ["CALL db.index.vector.queryNodes($index, $limit, $embedding)", "YIELD node, score",
      similarityResult, "ORDER BY score DESC"]
    [("index", .str index), ("embedding", .arr (embedding.map .float)), ("limit", .nat limit)]
    similarityColumns

def create (labels : List String) (properties : Json.Members) : Except Error Statement := do
  let expression ← labelExpression labels
  return .ofLines ["CREATE (n" ++ expression ++ ")", "SET n = $properties",
      "RETURN " ++ nodeProjection "n" ++ " AS node"]
    [("properties", .obj properties)] ["node"]

def update (targetId : String) (labels : List String) (properties : Option Json.Members) :
    Except Error Statement := do
  let expression ← labelExpression labels
  let lines := ["MATCH (n)", "WHERE elementId(n) = $targetId"] ++
    (if labels.isEmpty then [] else ["SET n" ++ expression]) ++
    (if properties.isSome then ["SET n += $properties"] else []) ++
    ["RETURN " ++ nodeProjection "n" ++ " AS node"]
  return .ofLines lines (("targetId", .str targetId) ::
    (properties.map fun ps => ("properties", Json.obj ps)).toList) ["node"]

def search (text : String) (labels : List String) (limit : Nat) : Statement :=
  .ofLines ["MATCH (n)", "WHERE any(label IN labels(n) WHERE label IN $labels)",
      "AND toLower(n.name) CONTAINS toLower($query)",
      "RETURN " ++ braced "elementId: elementId(n), labels: labels(n), props: properties(n)" ++
        " AS node",
      "ORDER BY n.name", "LIMIT $limit"]
    [("query", .str text), ("labels", .strings labels), ("limit", .nat limit)] ["node"]

end KnowledgeGraph.Node
