import KnowledgeGraph.Text.Split

/-!
# Endpoints

What can be asked of the service over HTTP: a path and a verb for each. A path is taken as it
was sent, without undoing its escapes.
-/

namespace KnowledgeGraph.Api

inductive Endpoint where
  | root
  | health
  | metrics
  | signUp
  | login
  | findNodes
  | findNearest
  | addNode
  | changeNode
  | addRelationship
  | changeRelationship
  | removeRelationship
  | findSimilar
  | searchNodes
  | readDomain
  | checkDomainName
  | addDomain
  | changeDomain
  | readObject
  | keepObject
  | embed
  /-- The profile of the user of a name, with the escapes that it was sent with. -/
  | profile (name : String)
  deriving DecidableEq

inductive Verb where
  | get
  | post
  | put
  deriving DecidableEq

def Verb.methods : Verb → List String
  | .get => ["GET", "HEAD"]
  | .post => ["POST"]
  | .put => ["PUT"]

namespace Endpoint

def verb : Endpoint → Verb
  | .root | .health | .metrics | .findNodes | .findNearest | .searchNodes | .readDomain
  | .checkDomainName | .readObject | .profile _ => .get
  | .signUp | .login | .addNode | .addRelationship | .removeRelationship | .findSimilar
  | .addDomain | .keepObject | .embed => .post
  | .changeNode | .changeRelationship | .changeDomain => .put

def accepts (e : Endpoint) (method : String) : Bool := e.verb.methods.contains method

def isSecure : Endpoint → Bool
  | .root | .health | .metrics | .signUp | .login => false
  | _ => true

def fixedPaths : List (String × Endpoint) :=
  [("/api", .root), ("/api/", .root), ("/api/healthcheck", .health),
   ("/api/sign-up", .signUp), ("/api/login", .login), ("/metrics", .metrics),
   ("/api/secure/graph/get-nodes", .findNodes),
   ("/api/secure/graph/get-node-with-relationships-by-search-term", .findNearest),
   ("/api/secure/graph/create-node", .addNode),
   ("/api/secure/graph/update-node", .changeNode),
   ("/api/secure/graph/create-relationship", .addRelationship),
   ("/api/secure/graph/update-relationship", .changeRelationship),
   ("/api/secure/graph/delete-relationship", .removeRelationship),
   ("/api/secure/graph/similar-nodes", .findSimilar),
   ("/api/secure/graph/search-nodes", .searchNodes),
   ("/api/secure/graph/domain", .readDomain),
   ("/api/secure/graph/validate-domain-name", .checkDomainName),
   ("/api/secure/graph/create-domain", .addDomain),
   ("/api/secure/graph/update-domain", .changeDomain),
   ("/api/secure/helper/s3-object", .readObject),
   ("/api/secure/helper/s3-upload", .keepObject),
   ("/api/secure/helper/embedding", .embed)]

def profiles : String := "/api/secure/profile/user-profile/"

def isSegment (s : String) : Bool := !s.isEmpty && !s.toList.contains '/'

def ofPath? (path : String) : Option Endpoint :=
  (fixedPaths.lookup path).orElse fun _ =>
    ((Text.stripLead? path profiles).filter isSegment).map .profile

end Endpoint

end KnowledgeGraph.Api
