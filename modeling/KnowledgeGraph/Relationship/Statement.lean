import KnowledgeGraph.Graph.Identifier
import KnowledgeGraph.Graph.Statement

/-!
# Statements about relationships
-/

namespace KnowledgeGraph.Relationship

open KnowledgeGraph.Graph

def create (sourceId targetId type : String) (properties : Json.Members) :
    Except Error Statement := do
  let quoted ← quote type
  return .ofLines ["MATCH (a)", "WHERE elementId(a) = $sourceId", "MATCH (b)",
      "WHERE elementId(b) = $targetId", "CREATE (a)-[r:" ++ quoted ++ " $properties]->(b)",
      "RETURN " ++ relationshipProjection "r" ++ " AS relationship"]
    [("sourceId", .str sourceId), ("targetId", .str targetId), ("properties", .obj properties)]
    ["relationship"]

/-- A type cannot be changed: the relationship is made anew between the same ends, with the
given properties or else its own, and the old one is deleted. -/
def retype (targetId type : String) (properties : Option Json.Members) :
    Except Error Statement := do
  let quoted ← quote type
  return .ofLines ["MATCH (a)-[r]->(b)", "WHERE elementId(r) = $targetId",
      "CREATE (a)-[nr:" ++ quoted ++ "]->(b)", "SET nr = coalesce($properties, properties(r))",
      "DELETE r", "RETURN " ++ relationshipProjection "nr" ++ " AS relationship"]
    [("targetId", .str targetId), ("properties", Json.ofOption .obj properties)]
    ["relationship"]

def replaceProperties (targetId : String) (properties : Json.Members) : Statement :=
  .ofLines ["MATCH ()-[r]->()", "WHERE elementId(r) = $targetId", "SET r = $properties",
      "RETURN " ++ relationshipProjection "r" ++ " AS relationship"]
    [("targetId", .str targetId), ("properties", .obj properties)] ["relationship"]

def delete (relationshipId : String) : Statement :=
  .ofLines ["MATCH ()-[r]->()", "WHERE elementId(r) = $relationshipId", "DELETE r",
      "RETURN count(*) AS deleted"]
    [("relationshipId", .str relationshipId)] ["deleted"]

end KnowledgeGraph.Relationship
