import KnowledgeGraph.Graph.Redaction
import KnowledgeGraph.Person.Statement
import KnowledgeGraph.Workflow.Checks

/-!
# Profiles
-/

namespace KnowledgeGraph.Person

open KnowledgeGraph.Graph

def readProfile (username : String) : Workflow (List Record) := do
  let username ← requireText username "username"
  let rows ← Workflow.query (profile username)
  let rows ← requireRows rows "user"
  return rows.map redactRecord

end KnowledgeGraph.Person
