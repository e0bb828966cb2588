import KnowledgeGraph.Domain.Requirement

/-!
# Requests about domains

A domain is a field of learning with levels in order. It is written as a whole: with all of its
levels and all that they require.
-/

namespace KnowledgeGraph.Domain

open Wire

structure NameQuery where
  name : Option String

instance : Readable NameQuery where
  fields := .cons "name" .free (.optional .text) .nil
  ofMeaning := fun (name, _) => ⟨name⟩

structure Level where
  level : Int64
  name : String
  description : Option String
  pointsRequired : Int64
  requirements : Requirements
  deriving DecidableEq

instance : Writable Level where
  fields := .cons "level" .free .int64 <|
    .cons "name" .free .text <|
    .cons "description" .free (.optional .text) <|
    .cons "points_required" .free .int64 <|
    .cons "requirements" .free (.record (Readable.fields Requirements)) .nil
  ofMeaning := fun (level, name, description, points, requirements, _) =>
    ⟨level, name, description, points, Readable.ofMeaning requirements⟩
  toMeaning := fun l =>
    (l.level, l.name, l.description, l.pointsRequired, Writable.toMeaning l.requirements, ())

structure Info where
  name : String
  description : String
  deriving DecidableEq

instance : Writable Info where
  fields := .cons "name" .free .text <| .cons "description" .free .text .nil
  ofMeaning := fun (name, description, _) => ⟨name, description⟩
  toMeaning := fun i => (i.name, i.description, ())

structure Creation where
  domain : Info
  levels : List Level

instance : Readable Creation where
  fields := .cons "domain" .free (.record (Readable.fields Info)) <|
    .cons "levels" .free (.list (.record (Readable.fields Level))) .nil
  ofMeaning := fun (domain, levels, _) =>
    ⟨Readable.ofMeaning domain, levels.map Readable.ofMeaning⟩

structure Update where
  domainElementId : String
  domain : Info
  levels : List Level
  removedNodeElementIds : List String

instance : Readable Update where
  fields := .cons "domainElementId" .free .text <|
    .cons "domain" .free (.record (Readable.fields Info)) <|
    .cons "levels" .free (.list (.record (Readable.fields Level))) <|
    .cons "removedNodeElementIds" .free (.list .text) .nil
  ofMeaning := fun (id, domain, levels, removed, _) =>
    ⟨id, Readable.ofMeaning domain, levels.map Readable.ofMeaning, removed⟩

structure Ref where
  elementId : String
  name : String
  deriving DecidableEq

instance : Writable Ref where
  fields := .cons "elementId" .required .text <| .cons "name" .required .text .nil
  ofMeaning := fun (id, name, _) => ⟨id, name⟩
  toMeaning := fun r => (r.elementId, r.name, ())

structure CreatedNode where
  elementId : String
  name : String
  labels : List String
  deriving DecidableEq

instance : Writable CreatedNode where
  fields := .cons "elementId" .required .text <|
    .cons "name" .required .text <|
    .cons "labels" .required (.list .text) .nil
  ofMeaning := fun (id, name, labels, _) => ⟨id, name, labels⟩
  toMeaning := fun c => (c.elementId, c.name, c.labels, ())

structure Written where
  success : Bool
  domain : Ref
  createdNodes : List CreatedNode
  affectedUserProgressCount : Option Int64
  deriving DecidableEq

instance : Writable Written where
  fields := .cons "success" .required .flag <|
    .cons "domain" .required (.record (Readable.fields Ref)) <|
    .cons "createdNodes" .required (.list (.record (Readable.fields CreatedNode))) <|
    .cons "affectedUserProgressCount" .sparse (.optional .int64) .nil
  ofMeaning := fun (success, domain, created, affected, _) =>
    ⟨success, Readable.ofMeaning domain, created.map Readable.ofMeaning, affected⟩
  toMeaning := fun w =>
    (w.success, Writable.toMeaning w.domain, w.createdNodes.map Writable.toMeaning,
      w.affectedUserProgressCount, ())

structure NameAvailability where
  available : Bool
  existingDomainElementId : Option String
  deriving DecidableEq

instance : Writable NameAvailability where
  fields := .cons "available" .required .flag <|
    .cons "existingDomainElementId" .sparse (.optional .text) .nil
  ofMeaning := fun (available, existing, _) => ⟨available, existing⟩
  toMeaning := fun a => (a.available, a.existingDomainElementId, ())

end KnowledgeGraph.Domain
