import KnowledgeGraph.Domain.Statement
import KnowledgeGraph.Workflow.Checks

/-!
# Reading domains
-/

namespace KnowledgeGraph.Domain

open KnowledgeGraph.Graph

def isNull : Json → Bool
  | .null => true
  | _ => false

def read (name : String) : Workflow Json := do
  let name ← requireText name "name"
  let rows ← Workflow.query (byName name)
  match (rows.findSome? (·.get? "result")).filter (!isNull ·) with
  | some domain => return domain
  | none => Workflow.refuse (.notFound "domain not found")

def holder? (name : String) : Workflow (Option String) := do
  let rows ← Workflow.query (idByName name)
  return rows.head?.bind (·.str? "elementId")

def checkName (name : String) : Workflow NameAvailability := do
  let name ← requireText name "name"
  let holder ← holder? name
  return ⟨holder.isNone, holder⟩

end KnowledgeGraph.Domain
