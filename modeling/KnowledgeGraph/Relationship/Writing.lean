import KnowledgeGraph.Node.Properties
import KnowledgeGraph.Relationship.Request
import KnowledgeGraph.Relationship.Statement
import KnowledgeGraph.Workflow.Checks

/-!
# Creating, changing and deleting relationships
-/

namespace KnowledgeGraph.Relationship

open KnowledgeGraph.Graph

def Creation.statement (c : Creation) : Except Error Statement := do
  let sourceId ← requireText c.sourceId "sourceId"
  let targetId ← requireText c.targetId "targetId"
  let type ← requireText c.type "type"
  create sourceId targetId type (Node.flatten (c.properties.getD []))

def add (c : Creation) : Workflow (List Record) := do
  let rows ← Workflow.query (← c.statement)
  requireRows rows "source or target node"

def Update.statement (u : Update) : Except Error Statement := do
  let targetId ← requireText u.targetId "targetId"
  match u.type.bind Text.trimmed?, u.properties.map Node.flatten with
  | some type, properties => retype targetId type properties
  | none, some properties => return replaceProperties targetId properties
  | none, none => throw (.invalidInput "type or properties must be provided")

def change (u : Update) : Workflow (List Record) := do
  let rows ← Workflow.query (← u.statement)
  requireRows rows "relationship"

def remove (d : Deletion) : Workflow Deleted := do
  let id ← requireText d.relationshipId "relationshipId"
  let rows ← Workflow.query (delete id)
  let deleted := (rows.head?.bind (·.int64? "deleted")).getD 0
  if deleted = 0 then Workflow.refuse (.notFound "relationship not found")
  else return ⟨Int64.ofInt deleted⟩

end KnowledgeGraph.Relationship
