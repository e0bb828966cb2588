import KnowledgeGraph.Wire.Form

/-!
# Requests about nodes

What a client asks for and what it gets, as records of the wire. A field that a client must
give may still be left out of a request: that it is missing is then for the operation to say.
-/

namespace KnowledgeGraph.Node

open Wire

/-- Nodes by labels (a list with commas) and properties (a JSON object of strings). -/
structure Query where
  labels : Option String
  properties : Option String
  depth : Option UInt32

instance : Readable Query where
  fields := .cons "labels" .free (.optional .text) <|
    .cons "properties" .free (.optional .text) <|
    .cons "depth" .free (.optional .nat32) .nil
  ofMeaning := fun (labels, properties, depth, _) => ⟨labels, properties, depth⟩

structure TermQuery where
  searchTerm : Option String
  depth : Option UInt32

instance : Readable TermQuery where
  fields := .cons "searchTerm" .free (.optional .text) <|
    .cons "depth" .free (.optional .nat32) .nil
  ofMeaning := fun (term, depth, _) => ⟨term, depth⟩

structure Creation where
  labels : List String
  properties : Json.Members

instance : Readable Creation where
  fields := .cons "labels" .free (.list .text) <| .cons "properties" .free .object .nil
  ofMeaning := fun (labels, properties, _) => ⟨labels, properties⟩

structure Update where
  targetId : String
  labels : Option (List String)
  properties : Option Json.Members

instance : Readable Update where
  fields := .cons "targetId" .free .text <|
    .cons "labels" .free (.optional (.list .text)) <|
    .cons "properties" .free (.optional .object) .nil
  ofMeaning := fun (targetId, labels, properties, _) => ⟨targetId, labels, properties⟩

structure SimilarityQuery where
  nodeId : Option String
  embedding : Option (List Binary64)
  limit : Option UInt32

instance : Readable SimilarityQuery where
  fields := .cons "nodeId" .free (.optional .text) <|
    .cons "embedding" .free (.optional (.list .float)) <|
    .cons "limit" .free (.optional .nat32) .nil
  ofMeaning := fun (nodeId, embedding, limit, _) => ⟨nodeId, embedding, limit⟩

structure Similar where
  name : Option String
  description : Option String
  id : String
  score : Binary64

instance : Writable Similar where
  fields := .cons "name" .named (.optional .text) <|
    .cons "description" .named (.optional .text) <|
    .cons "id" .required .text <|
    .cons "score" .required .float .nil
  ofMeaning := fun (name, description, id, score, _) => ⟨name, description, id, score⟩
  toMeaning := fun s => (s.name, s.description, s.id, s.score, ())

structure SearchQuery where
  query : Option String
  labels : Option String
  limit : Option UInt32

instance : Readable SearchQuery where
  fields := .cons "query" .free (.optional .text) <|
    .cons "labels" .free (.optional .text) <|
    .cons "limit" .free (.optional .nat32) .nil
  ofMeaning := fun (query, labels, limit, _) => ⟨query, labels, limit⟩

structure SearchResult where
  nodes : List Json

instance : Writable SearchResult where
  fields := .cons "nodes" .required (.list .any) .nil
  ofMeaning := fun (nodes, _) => ⟨nodes⟩
  toMeaning := fun r => (r.nodes, ())

end KnowledgeGraph.Node
