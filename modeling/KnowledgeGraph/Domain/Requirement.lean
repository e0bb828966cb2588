import KnowledgeGraph.Text.Blank
import KnowledgeGraph.Wire.Form

/-!
# Requirements

What a level of a domain asks of a person: knowledge, skills, traits and milestones. Each names
a node that is already in the graph, or describes a new one, and all but milestones are graded.
-/

namespace KnowledgeGraph.Domain

open Wire

inductive RequirementKind where
  | knowledge
  | skill
  | trait
  | milestone
  deriving DecidableEq

namespace RequirementKind

def label : RequirementKind → String
  | .knowledge => "Knowledge"
  | .skill => "Skill"
  | .trait => "Trait"
  | .milestone => "Milestone"

def relationship : RequirementKind → String
  | .knowledge => "REQUIRES_KNOWLEDGE"
  | .skill => "REQUIRES_SKILL"
  | .trait => "REQUIRES_TRAIT"
  | .milestone => "REQUIRES_MILESTONE"

def guidanceProperty : RequirementKind → String
  | .knowledge => "how_to_learn"
  | .skill => "how_to_develop"
  | .trait => "measurement_criteria"
  | .milestone => "how_to_achieve"

end RequirementKind

/-- A node that a requirement brings along, with guidance for each kind it might be of. -/
structure NewNode where
  name : String
  description : String
  howToLearn : Option String
  howToDevelop : Option String
  measurementCriteria : Option String
  howToAchieve : Option String
  deriving DecidableEq

instance : Writable NewNode where
  fields := .cons "name" .free .text <|
    .cons "description" .free .text <|
    .cons "how_to_learn" .free (.optional .text) <|
    .cons "how_to_develop" .free (.optional .text) <|
    .cons "measurement_criteria" .free (.optional .text) <|
    .cons "how_to_achieve" .free (.optional .text) .nil
  ofMeaning := fun (name, description, learn, develop, criteria, achieve, _) =>
    ⟨name, description, learn, develop, criteria, achieve⟩
  toMeaning := fun n => (n.name, n.description, n.howToLearn, n.howToDevelop,
    n.measurementCriteria, n.howToAchieve, ())

def NewNode.guidance (n : NewNode) : RequirementKind → Option String
  | .knowledge => n.howToLearn
  | .skill => n.howToDevelop
  | .trait => n.measurementCriteria
  | .milestone => n.howToAchieve

structure KnowledgeRequirement where
  nodeElementId : Option String
  newNode : Option NewNode
  bloomLevel : String
  deriving DecidableEq

instance : Writable KnowledgeRequirement where
  fields := .cons "nodeElementId" .free (.optional .text) <|
    .cons "newNode" .free (.optional (.record (Readable.fields NewNode))) <|
    .cons "bloom_level" .free .text .nil
  ofMeaning := fun (id, node, level, _) => ⟨id, node.map Readable.ofMeaning, level⟩
  toMeaning := fun r => (r.nodeElementId, r.newNode.map Writable.toMeaning, r.bloomLevel, ())

structure SkillRequirement where
  nodeElementId : Option String
  newNode : Option NewNode
  dreyfusLevel : String
  deriving DecidableEq

instance : Writable SkillRequirement where
  fields := .cons "nodeElementId" .free (.optional .text) <|
    .cons "newNode" .free (.optional (.record (Readable.fields NewNode))) <|
    .cons "dreyfus_level" .free .text .nil
  ofMeaning := fun (id, node, level, _) => ⟨id, node.map Readable.ofMeaning, level⟩
  toMeaning := fun r => (r.nodeElementId, r.newNode.map Writable.toMeaning, r.dreyfusLevel, ())

structure TraitRequirement where
  nodeElementId : Option String
  newNode : Option NewNode
  minScore : Int64
  deriving DecidableEq

instance : Writable TraitRequirement where
  fields := .cons "nodeElementId" .free (.optional .text) <|
    .cons "newNode" .free (.optional (.record (Readable.fields NewNode))) <|
    .cons "min_score" .free .int64 .nil
  ofMeaning := fun (id, node, score, _) => ⟨id, node.map Readable.ofMeaning, score⟩
  toMeaning := fun r => (r.nodeElementId, r.newNode.map Writable.toMeaning, r.minScore, ())

structure MilestoneRequirement where
  nodeElementId : Option String
  newNode : Option NewNode
  deriving DecidableEq

instance : Writable MilestoneRequirement where
  fields := .cons "nodeElementId" .free (.optional .text) <|
    .cons "newNode" .free (.optional (.record (Readable.fields NewNode))) .nil
  ofMeaning := fun (id, node, _) => ⟨id, node.map Readable.ofMeaning⟩
  toMeaning := fun r => (r.nodeElementId, r.newNode.map Writable.toMeaning, ())

structure Requirement where
  kind : RequirementKind
  nodeElementId : Option String
  newNode : Option NewNode
  grade : Option (String × Json)

/-- The id of the node that the requirement names, if it is not blank. -/
def Requirement.existing? (r : Requirement) : Option String :=
  r.nodeElementId.bind Text.trimmed?

/-- Whether the requirement leads to a node: one that is there, or a new one with a name. -/
def Requirement.isResolvable (r : Requirement) : Bool :=
  r.existing?.isSome || r.newNode.any fun n => (Text.trimmed? n.name).isSome

structure Requirements where
  knowledge : List KnowledgeRequirement
  skills : List SkillRequirement
  traits : List TraitRequirement
  milestones : List MilestoneRequirement
  deriving DecidableEq

instance : Writable Requirements where
  fields := .cons "knowledge" .free (.list (.record (Readable.fields KnowledgeRequirement))) <|
    .cons "skills" .free (.list (.record (Readable.fields SkillRequirement))) <|
    .cons "traits" .free (.list (.record (Readable.fields TraitRequirement))) <|
    .cons "milestones" .free (.list (.record (Readable.fields MilestoneRequirement))) .nil
  ofMeaning := fun (knowledge, skills, traits, milestones, _) =>
    ⟨knowledge.map Readable.ofMeaning, skills.map Readable.ofMeaning,
      traits.map Readable.ofMeaning, milestones.map Readable.ofMeaning⟩
  toMeaning := fun r =>
    (r.knowledge.map Writable.toMeaning, r.skills.map Writable.toMeaning,
      r.traits.map Writable.toMeaning, r.milestones.map Writable.toMeaning, ())

def Requirements.entries (r : Requirements) : List Requirement :=
  r.knowledge.map (fun k =>
    ⟨.knowledge, k.nodeElementId, k.newNode, some ("bloom_level", .str k.bloomLevel)⟩) ++
  r.skills.map (fun s =>
    ⟨.skill, s.nodeElementId, s.newNode, some ("dreyfus_level", .str s.dreyfusLevel)⟩) ++
  r.traits.map (fun t =>
    ⟨.trait, t.nodeElementId, t.newNode, some ("min_score", .int t.minScore.toInt)⟩) ++
  r.milestones.map (fun m => ⟨.milestone, m.nodeElementId, m.newNode, none⟩)

end KnowledgeGraph.Domain
