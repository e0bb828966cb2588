import KnowledgeGraph.Api.Endpoint
import KnowledgeGraph.Api.Reading
import KnowledgeGraph.Api.Service
import KnowledgeGraph.Asset.Keeping
import KnowledgeGraph.Asset.Request
import KnowledgeGraph.Domain.Writing
import KnowledgeGraph.Node.Writing
import KnowledgeGraph.Person.Account
import KnowledgeGraph.Person.Profile
import KnowledgeGraph.Relationship.Writing

/-!
# Answering

What each endpoint does with a request that was let through to it. Whatever an operation comes
to, its result or its error, is a response.
-/

namespace KnowledgeGraph.Api

open Http

structure Visit where
  request : Request
  claims : Option Token.Claims

/-- Answers an error. What failed behind the service is only counted. -/
def answerError (e : Error) : Workflow Response := do
  if let .operationFailed operation _ := e then Workflow.count (.operationFailed operation)
  return .ofError e

def respond (operation : Workflow α) (encode : α → Response) : Workflow Response := do
  match ← operation.attempt with
  | .ok a => return encode a
  | .error e => answerError e

-- ---------------------------------------------------------------------------
-- Forms of answers.

def found (j : Json) : Response := .ofJson 200 j
def created (j : Json) : Response := .ofJson 201 j
def records (rs : List Graph.Record) : Json := .arr (rs.map Wire.toJson)

def recorded [Wire.Writable α] (a : α) : Response := found (Wire.toJson a)

def Visit.note (v : Visit) (text : String) : Workflow Unit :=
  match v.claims with
  | some claims => Workflow.note claims.subject text
  | none => pure ()

-- ---------------------------------------------------------------------------
-- Endpoints that do more than pass an operation on.

def answerHealth : Workflow Response := do
  let ping ← (Workflow.query .ping).attempt
  return found (.obj [("graph", .str (if ping.isOk then "up" else "down")), ("status", .str "ok")])

def answerMetrics : Workflow Response := do
  let counters ← Workflow.counters
  return Response.withText ⟨200, [], .text counters.text⟩ "content-type"
    "text/plain; version=0.0.4"

/-- An object as it is, to be kept by its reader for an hour, if its type may stand in a header. -/
def objectResponse (o : Asset.Object) : Response :=
  if isLegalValue (Text.Utf8.bytes o.contentType) then
    (Response.withText ⟨200, [], .bytes o.bytes⟩ "content-type" o.contentType).withText
      "cache-control" "public, max-age=3600"
  else .ofText 500 "failed to parse header value"

def answerUpload (s : Service) (r : Request) : Workflow Response :=
  match readQuery Asset.Location r with
  | .error e => answerError e
  | .ok location =>
    match boundary? r with
    | none =>
      return .ofText 400 "Invalid \x60boundary\x60 for \x60multipart/form-data\x60 request"
    | some boundary =>
      respond (do
        let (bytes, type) ← readFile s.maxBodyBytes boundary r
        Asset.keep s.bucket location.bucket location.key bytes type)
        fun _ => found (.str "File uploaded successfully")

def answerProfile (name : String) : Workflow Response :=
  match readSegment name with
  | some username => respond (Person.readProfile username) fun rs => found (records rs)
  | none => return .ofText 400 "Invalid URL: Invalid UTF-8 in \x60username\x60"

-- ---------------------------------------------------------------------------
-- All endpoints.

def ofQuery (α : Type) [Wire.Readable α] (r : Request) (operation : α → Workflow β)
    (encode : β → Response) : Workflow Response :=
  respond (do operation (← readQuery α r)) encode

def ofBody (α : Type) [Wire.Readable α] (s : Service) (r : Request) (operation : α → Workflow β)
    (encode : β → Response) : Workflow Response :=
  respond (do operation (← readJson α s.maxBodyBytes r)) encode

def Service.answer (s : Service) (v : Visit) : Endpoint → Workflow Response
  | .root => return found (.str "ok")
  | .health => answerHealth
  | .metrics => answerMetrics
  | .signUp => ofBody Person.SignUp s v.request (Person.signUp s.passwords s.tokens) recorded
  | .login => ofBody Person.Login s v.request (Person.login s.passwords s.tokens) recorded
  | .findNodes => ofQuery Node.Query v.request (Node.find s.graph) fun rs => found (records rs)
  | .findNearest =>
    ofQuery Node.TermQuery v.request (Node.findNearest s.graph) fun rs => found (records rs)
  | .addNode =>
    ofBody Node.Creation s v.request (fun creation => do
      let rs ← Node.add s.graph s.imageBucket creation
      v.note "Node created"
      return rs) fun rs => created (records rs)
  | .changeNode => ofBody Node.Update s v.request Node.change fun rs => found (records rs)
  | .addRelationship =>
    ofBody Relationship.Creation s v.request (fun creation => do
      let rs ← Relationship.add creation
      v.note "Relationship created"
      return rs) fun rs => created (records rs)
  | .changeRelationship =>
    ofBody Relationship.Update s v.request Relationship.change fun rs => found (records rs)
  | .removeRelationship =>
    ofBody Relationship.Deletion s v.request (fun deletion => do
      let deleted ← Relationship.remove deletion
      v.note "Relationship deleted"
      return deleted) recorded
  | .findSimilar =>
    ofBody Node.SimilarityQuery s v.request (Node.findSimilar s.graph) fun nodes =>
      found (.arr (nodes.map Wire.toJson))
  | .searchNodes => ofQuery Node.SearchQuery v.request Node.findByName recorded
  | .readDomain =>
    ofQuery Domain.NameQuery v.request (fun q => Domain.read (q.name.getD "")) found
  | .checkDomainName =>
    ofQuery Domain.NameQuery v.request (fun q => Domain.checkName (q.name.getD "")) recorded
  | .addDomain => ofBody Domain.Creation s v.request Domain.add recorded
  | .changeDomain => ofBody Domain.Update s v.request Domain.change recorded
  | .readObject =>
    ofQuery Asset.Location v.request (fun l => Asset.fetch s.bucket l.bucket l.key) objectResponse
  | .keepObject => answerUpload s v.request
  | .embed =>
    ofBody Asset.EmbeddingRequest s v.request (fun q => Node.embed q.text) fun embedding =>
      recorded (Asset.EmbeddingResponse.mk embedding)
  | .profile name => answerProfile name

end KnowledgeGraph.Api
