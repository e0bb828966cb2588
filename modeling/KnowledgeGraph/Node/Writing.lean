import KnowledgeGraph.Asset.ContentType
import KnowledgeGraph.Calendar
import KnowledgeGraph.Node.Properties
import KnowledgeGraph.Node.Reading

/-!
# Creating and updating nodes

A node is created only if no node in the graph is too similar to it. With an image generator, a
picture of it is drawn and stored first; its embedding and the place of its picture are
properties of the node.
-/

namespace KnowledgeGraph.Node

open KnowledgeGraph.Graph

def embeddingText (name description : String) : String := name ++ ": " ++ description

def imagePrompt (subject : String) : String :=
  "A minimalistic black-and-white line drawing of '" ++ subject ++
    "'. The sketch is drawn with elegant, simple outlines, with no shading or extra details. " ++
    "The style is similar to high-fashion sketches, emphasizing grace."

def embeddingProperty : String := "embedding"
def imageProperty : String := "image"

def imageKey (name : String) (seconds : Nat) : String :=
  name ++ "_" ++ Calendar.timestamp seconds ++ ".png"

/-- Draws and stores the picture of a node; the result is its key. -/
def illustrate (bucket name subject : String) : Workflow String := do
  let bytes ← Workflow.draw (imagePrompt subject)
  let key := imageKey name (← Workflow.now)
  Workflow.put bucket key ⟨bytes, Asset.sniff bytes⟩
  return key

def Creation.name? (c : Creation) : Option String :=
  ((Json.Members.get? "name" c.properties).bind Json.str?).bind Text.trimmed?

def Creation.description (c : Creation) : String :=
  ((Json.Members.get? "description" c.properties).bind Json.str?).getD ""

/-- The score of the best match, if it is above the threshold. -/
def tooSimilar? (settings : Settings) (rows : List Record) : Option Binary64 :=
  (rows.head?.bind (·.float? "score")).filter (·.gt settings.similarityThreshold)

/-- Creates a node; `bucket` is where its picture goes, if one is to be drawn. -/
def add (settings : Settings) (bucket : Option String) (c : Creation) :
    Workflow (List Record) := do
  if c.labels.isEmpty || c.properties.isEmpty then
    Workflow.refuse (.invalidInput "labels and properties are required")
  else
    match c.name? with
    | none => Workflow.refuse (.invalidInput "properties.name is required")
    | some name =>
      let subject := embeddingText name c.description
      let embedding ← Workflow.embed subject
      let nearest ← Workflow.query (similarToEmbedding settings.vectorIndex embedding 1)
      match tooSimilar? settings nearest with
      | some score =>
        Workflow.count .similarNodeRefused
        Workflow.refuse (.similarNodeExists score)
      | none =>
        let properties ← match bucket with
          | some bucket => do
            let key ← illustrate bucket name subject
            pure (c.properties.insert imageProperty (.str key))
          | none => pure c.properties
        let properties := properties.insert embeddingProperty (.arr (embedding.map .float))
        let rows ← Workflow.query (← create c.labels (flatten properties))
        Workflow.count .nodeCreated
        return rows

def Update.statement (u : Update) : Except Error Statement := do
  let targetId ← requireText u.targetId "targetId"
  let labels := u.labels.getD []
  let properties := u.properties.filter (!·.isEmpty)
  if labels.isEmpty && properties.isNone then
    throw (.invalidInput "labels or properties must be provided")
  update targetId labels (properties.map flatten)

def change (u : Update) : Workflow (List Record) := do
  let rows ← Workflow.query (← u.statement)
  let rows ← requireRows rows "node"
  return rows.map redactRecord

end KnowledgeGraph.Node
