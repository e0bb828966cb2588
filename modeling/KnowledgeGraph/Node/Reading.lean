import KnowledgeGraph.Graph.Redaction
import KnowledgeGraph.Graph.Settings
import KnowledgeGraph.Node.Request
import KnowledgeGraph.Node.Statement
import KnowledgeGraph.Workflow.Checks

/-!
# Reading nodes

Four ways to nodes: by labels and properties, by nearness to a term, by similarity, and by a
text in the name. A request is checked before anything is asked of a backend.
-/

namespace KnowledgeGraph.Node

open KnowledgeGraph.Graph

def defaultDepth : Nat := 1

def resolveDepth (settings : Settings) (depth : Option UInt32) : Except Error Nat :=
  let d := (depth.map UInt32.toNat).getD defaultDepth
  if 1 ≤ d ∧ d ≤ settings.maxDepth then .ok d
  else .error (.invalidInput ("depth must be between 1 and " ++ Nat.repr settings.maxDepth))

def isText : Json → Bool
  | .str _ => true
  | _ => false

def parseFilters (raw : String) : Except Error Json.Members :=
  match (Wire.Document.ofText raw).json with
  | .error _ => .error (.invalidInput "properties is not valid JSON: malformed text")
  | .ok (.obj ms) =>
    match ms.find? fun (_, v) => !isText v with
    | some (key, _) => .error (.invalidInput ("property '" ++ key ++ "' must be a string"))
    | none => .ok ms
  | .ok _ => .error (.invalidInput "properties must be a JSON object")

def Query.statement (settings : Settings) (q : Query) : Except Error Statement := do
  let labels := (q.labels.map splitLabels).getD []
  let filters ← match q.properties with
    | some raw => if Text.isBlankText raw then pure [] else parseFilters raw
    | none => pure []
  let depth ← resolveDepth settings q.depth
  matching labels filters depth

def find (settings : Settings) (q : Query) : Workflow (List Record) := do
  let rows ← Workflow.query (← q.statement settings)
  return rows.map redactRecord

def findNearest (settings : Settings) (q : TermQuery) : Workflow (List Record) := do
  let term ← requireGiven q.searchTerm "searchTerm"
  let depth ← resolveDepth settings q.depth
  let embedding ← Workflow.embed term
  let rows ← Workflow.query (nearest settings.vectorIndex embedding depth)
  return rows.map redactRecord

def embed (text : String) : Workflow (List Binary64) :=
  if Text.isBlankText text then Workflow.refuse (.invalidInput "text is required")
  else Workflow.embed text

def defaultSimilarLimit : Nat := 5
def maxSimilarLimit : Nat := 100

def similarReferenceRequired : String := "Exactly one of 'nodeId' or 'embedding' must be provided"

def SimilarityQuery.statement (settings : Settings) (q : SimilarityQuery) :
    Except Error Statement := do
  let limit := (q.limit.map UInt32.toNat).getD defaultSimilarLimit
  if limit < 1 ∨ maxSimilarLimit < limit then
    throw (.invalidInput ("limit must be between 1 and " ++ Nat.repr maxSimilarLimit))
  match q.nodeId.bind Text.trimmed?, q.embedding with
  | some nodeId, none => return similarToNode settings.vectorIndex nodeId limit
  | none, some (x :: xs) => return similarToEmbedding settings.vectorIndex (x :: xs) limit
  | _, _ => throw (.invalidInput similarReferenceRequired)

def Similar.ofRecord? (r : Record) : Option Similar := do
  let id ← r.str? "id"
  let score ← r.float? "score"
  return ⟨r.str? "name", r.str? "description", id, score⟩

def Similar.notAfter (a b : Similar) : Bool := decide (b.score.rank ≤ a.score.rank)

/-- The similar nodes of an answer, the best first, and equals in the order of their rows. -/
def rankSimilar (rows : List Record) : List Similar :=
  (rows.filterMap Similar.ofRecord?).mergeSort Similar.notAfter

def findSimilar (settings : Settings) (q : SimilarityQuery) : Workflow (List Similar) := do
  let rows ← Workflow.query (← q.statement settings)
  return rankSimilar rows

def defaultSearchLimit : Nat := 20
def maxSearchLimit : Nat := 100

def defaultSearchLabels : List String := ["Knowledge", "Skill", "Trait", "Milestone"]

def SearchQuery.statement (q : SearchQuery) : Except Error Statement := do
  let text ← requireGiven q.query "query"
  let labels := (q.labels.map splitLabels).getD []
  let limit := (q.limit.map UInt32.toNat).getD defaultSearchLimit
  return search text (if labels.isEmpty then defaultSearchLabels else labels)
    (max 1 (min limit maxSearchLimit))

def findByName (q : SearchQuery) : Workflow SearchResult := do
  let rows ← Workflow.query (← q.statement)
  return ⟨rows.filterMap fun r => (r.get? "node").map redactNode⟩

end KnowledgeGraph.Node
