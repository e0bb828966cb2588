import KnowledgeGraph.Exchange.Message
import KnowledgeGraph.Wire.Shape

/-!
# The embedding service

It is sent a text and answers vectors: a list of items or one item, and in an item one vector or a
list of them. The first vector counts, and it must have the dimensions that the index was made for.
-/

namespace KnowledgeGraph.Embedding

open Wire Exchange

structure Settings where
  endpoint : String := "http://127.0.0.1:8080/embedding"
  timeoutSeconds : Nat := 30
  dimensions : Nat := 768
  deriving DecidableEq

def request (settings : Settings) (text : String) : Request where
  method := "POST"
  url := settings.endpoint
  bearer := none
  body := some (.obj [("content", .str text)])

-- ---------------------------------------------------------------------------
-- The answer.

def itemLayout (vectors : Shape) : Layout := .cons "embedding" .required vectors .nil

def vector : Shape := .list .float

/-- Reads an item with a list of vectors or else with one; the result is the first vector. -/
def readItem (v : Source) : Except Wire.Fault (Option (List Binary64)) :=
  match (Shape.record (itemLayout (.list vector))).read maxDepth v with
  | .ok (vectors, _) => .ok vectors.head?
  | .error _ =>
    match (Shape.record (itemLayout vector)).read maxDepth v with
    | .ok (v, _) => .ok (some v)
    | .error fault => .error fault

/-- Reads a list of items or else one item; the result is the first vector of the first item. -/
def readPayload (v : Source) : Except Wire.Fault (Option (List Binary64)) := do
  discard <| v.toJson maxDepth
  let items : Except Wire.Fault (List (Option (List Binary64))) :=
    match v with
    | .list items => items.mapM readItem
    | _ => .error .mismatch
  match items with
  | .ok firsts => return firsts.head?.join
  | .error _ => readItem v

def responseFailure (cause : String) : Failure := ⟨"embedding_response", cause⟩

def checkVector (dimensions : Nat) (v : Option (List Binary64)) :
    Except Failure (List Binary64) :=
  match v.filter (!·.isEmpty) with
  | none => .error (responseFailure "response contained no embedding")
  | some v =>
    if v.length = dimensions then .ok v
    else .error (responseFailure ("expected " ++ Nat.repr dimensions ++
      " dimensions, endpoint returned " ++ Nat.repr v.length))

def readResponse (settings : Settings) (r : Response) : Except Failure (List Binary64) :=
  if !r.isSuccess then .error (r.rejection "embedding_request")
  else
    match (Document.ofBytes r.body).read readPayload with
    | .ok v => checkVector settings.dimensions v
    | .error _ => .error (responseFailure "error decoding response body")

def embed [Monad m] (settings : Settings) (sender : Sender m) (text : String) :
    m (Except Failure (List Binary64)) := do
  match ← (request settings text).send "embedding_request" sender with
  | .ok r => return readResponse settings r
  | .error failure => return .error failure

end KnowledgeGraph.Embedding
