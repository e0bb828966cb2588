import KnowledgeGraph.Domain.Reading

/-!
# Writing domains

A domain is written statement by statement: the domain itself, then each level, and for each
level its requirements in order, every new node before the link to it. An update gives a domain a
new name and description and replaces all of its levels.
-/

namespace KnowledgeGraph.Domain

open KnowledgeGraph.Graph

/-- The checks that creating and updating share; the result is the trimmed name. -/
def validate (domain : Info) (levels : List Level) : Except Error String := do
  let some name := Text.trimmed? domain.name | throw (.invalidInput "Domain name is required")
  if levels.isEmpty then throw (.invalidInput "At least one level is required")
  if levels.any fun level => level.requirements.entries.any (!·.isResolvable) then
    throw (.invalidInput "each requirement needs a nodeElementId or a newNode name")
  return name

def returnedId (rows : List Record) (operation : String) : Except Error String :=
  match rows.head?.bind (·.str? "elementId") with
  | some id => .ok id
  | none => .error (.operationFailed operation "no element id returned")

/-- Writes one requirement of a level; the result is the node that was made for it, if any. -/
def writeRequirement (levelId : String) (r : Requirement) : Workflow (Option CreatedNode) :=
  match r.existing?, r.newNode with
  | some id, _ => do
    let _ ← Workflow.query (link levelId id r)
    return none
  | none, some node => do
    let rows ← Workflow.query (mergeNode r.kind node)
    let id ← returnedId rows "merge_requirement_node"
    let _ ← Workflow.query (link levelId id r)
    return some ⟨id, Text.trim node.name, [r.kind.label]⟩
  | none, none => return none

def writeRequirements (levelId : String) : List Requirement → Workflow (List CreatedNode)
  | [] => return []
  | r :: rs => do
    let made ← writeRequirement levelId r
    let rest ← writeRequirements levelId rs
    return made.toList ++ rest

def writeLevels (domainId : String) : List Level → Workflow (List CreatedNode)
  | [] => return []
  | level :: levels => do
    let rows ← Workflow.query (createLevel domainId level)
    let levelId ← returnedId rows "create_domain_level"
    let made ← writeRequirements levelId level.requirements.entries
    let rest ← writeLevels domainId levels
    return made ++ rest

def add (c : Creation) : Workflow Written := do
  let name ← validate c.domain c.levels
  if (← holder? name).isSome then
    Workflow.refuse (.invalidInput "Domain with this name already exists")
  else
    let rows ← Workflow.query (create name c.domain.description)
    let domainId ← returnedId rows "create_domain"
    let made ← writeLevels domainId c.levels
    Workflow.count (.domainWritten "create")
    return ⟨true, ⟨domainId, name⟩, made, none⟩

/-- Deletes the progress on nodes that a domain no longer has; the result is how much. -/
def dropProgress (removed : List String) : Workflow Int :=
  if removed.isEmpty then return 0
  else do
    let rows ← Workflow.query (deleteProgress removed)
    return (rows.head?.bind (·.int64? "deletedCount")).getD 0

def change (u : Update) : Workflow Written := do
  let domainId ← requireText u.domainElementId "domainElementId"
  let name ← validate u.domain u.levels
  let found ← Workflow.query (nameById domainId)
  if found.isEmpty then Workflow.refuse (.notFound "Domain not found")
  else
    let affected ← dropProgress (u.removedNodeElementIds.filterMap Text.trimmed?)
    let _ ← Workflow.query (rename domainId name u.domain.description)
    let _ ← Workflow.query (deleteLevels domainId)
    let made ← writeLevels domainId u.levels
    Workflow.count (.domainWritten "update")
    return ⟨true, ⟨domainId, name⟩, made, some (Int64.ofInt affected)⟩

end KnowledgeGraph.Domain
