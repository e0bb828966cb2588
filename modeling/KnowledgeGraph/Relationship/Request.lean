import KnowledgeGraph.Wire.Form

/-!
# Requests about relationships
-/

namespace KnowledgeGraph.Relationship

open Wire

structure Creation where
  sourceId : String
  targetId : String
  type : String
  properties : Option Json.Members

instance : Readable Creation where
  fields := .cons "sourceId" .free .text <|
    .cons "targetId" .free .text <|
    .cons "type" .free .text <|
    .cons "properties" .free (.optional .object) .nil
  ofMeaning := fun (sourceId, targetId, type, properties, _) =>
    ⟨sourceId, targetId, type, properties⟩

structure Update where
  targetId : String
  type : Option String
  properties : Option Json.Members

instance : Readable Update where
  fields := .cons "targetId" .free .text <|
    .cons "type" .free (.optional .text) <|
    .cons "properties" .free (.optional .object) .nil
  ofMeaning := fun (targetId, type, properties, _) => ⟨targetId, type, properties⟩

structure Deletion where
  relationshipId : String

instance : Readable Deletion where
  fields := .cons "relationshipId" .free .text .nil
  ofMeaning := fun (id, _) => ⟨id⟩

structure Deleted where
  deleted : Int64

instance : Writable Deleted where
  fields := .cons "deleted" .required .int64 .nil
  ofMeaning := fun (n, _) => ⟨n⟩
  toMeaning := fun d => (d.deleted, ())

end KnowledgeGraph.Relationship
