import KnowledgeGraph.Proofs.Domain.Deeds

/-!
# Demands

What a level of a domain demands, list after list, and the deeds that a demand comes to: a link to the
node that is there, or a new node and a link to that. None of it is said in terms of the requirements
that writing goes through; those turn out to be the same.
-/

namespace KnowledgeGraph.Domain

open KnowledgeGraph.Graph (Deed)

structure Demand where
  label : String
  relationship : String
  nodeElementId : Option String
  newNode : Option NewNode
  /-- The property of the new node that tells how to get there. -/
  guidance : Option (String × Json)
  /-- The property of the link. -/
  grade : Option (String × Json)

namespace Demand

def existing? (d : Demand) : Option String := d.nodeElementId.bind Text.trimmed?

def LeadsToNode (d : Demand) : Prop :=
  d.existing?.isSome ∨ d.newNode.any fun node => (Text.trimmed? node.name).isSome

instance (d : Demand) : Decidable d.LeadsToNode := inferInstanceAs (Decidable (_ ∨ _))

def merge (d : Demand) (node : NewNode) : Deed Json :=
  .merge d.label [("name", .str (Text.trim node.name))]
    (("description", .str node.description) :: d.guidance.toList) "elementId"

def link (d : Demand) (levelId nodeId : String) : Deed Json :=
  .link "Domain_Level" (.str levelId) d.label (.str nodeId) d.relationship d.grade.toList

def guided (key : String) (newNode : Option NewNode) (text? : NewNode → Option String) :
    Option (String × Json) :=
  (newNode.bind text?).map (key, .str ·)

end Demand

open Demand (guided)

def Level.demands (level : Level) : List Demand :=
  level.requirements.knowledge.map (fun k =>
    ⟨"Knowledge", "REQUIRES_KNOWLEDGE", k.nodeElementId, k.newNode,
      guided "how_to_learn" k.newNode (·.howToLearn), some ("bloom_level", .str k.bloomLevel)⟩) ++
  level.requirements.skills.map (fun s =>
    ⟨"Skill", "REQUIRES_SKILL", s.nodeElementId, s.newNode,
      guided "how_to_develop" s.newNode (·.howToDevelop),
      some ("dreyfus_level", .str s.dreyfusLevel)⟩) ++
  level.requirements.traits.map (fun t =>
    ⟨"Trait", "REQUIRES_TRAIT", t.nodeElementId, t.newNode,
      guided "measurement_criteria" t.newNode (·.measurementCriteria),
      some ("min_score", .int t.minScore.toInt)⟩) ++
  level.requirements.milestones.map (fun m =>
    ⟨"Milestone", "REQUIRES_MILESTONE", m.nodeElementId, m.newNode,
      guided "how_to_achieve" m.newNode (·.howToAchieve), none⟩)

-- ---------------------------------------------------------------------------
-- Requirements as demands
-- ---------------------------------------------------------------------------

def Requirement.demand (r : Requirement) : Demand :=
  ⟨r.kind.label, r.kind.relationship, r.nodeElementId, r.newNode,
    guided r.kind.guidanceProperty r.newNode (·.guidance r.kind), r.grade⟩

theorem demands_eq (level : Level) :
    level.demands = level.requirements.entries.map Requirement.demand := by
  simp only [Level.demands, Requirements.entries, List.map_append, List.map_map]
  rfl

theorem gradeKey_of_mem_entries {requirements : Requirements} (h : r ∈ requirements.entries) :
    r.grade.map (·.1) = r.kind.gradeKey? := by
  simp only [Requirements.entries, List.mem_append, List.mem_map] at h
  rcases h with ((⟨k, -, rfl⟩ | ⟨s, -, rfl⟩) | ⟨t, -, rfl⟩) | ⟨m, -, rfl⟩ <;> rfl

theorem isResolvable_iff (r : Requirement) : r.isResolvable = true ↔ r.demand.LeadsToNode :=
  (Bool.or_eq_true ..).to_iff

theorem forall_leadsToNode_iff (level : Level) : (∀ d ∈ level.demands, d.LeadsToNode) ↔
    ∀ r ∈ level.requirements.entries, r.isResolvable := by
  simp only [demands_eq, List.forall_mem_map, isResolvable_iff]

theorem deed?_link_of_mem {requirements : Requirements} (levelId nodeId : String)
    (h : r ∈ requirements.entries) :
    (link levelId nodeId r).deed? = some (r.demand.link levelId nodeId) :=
  deed?_link levelId nodeId (gradeKey_of_mem_entries h)

theorem deed?_mergeNode_of_newNode {r : Requirement} (h : r.newNode = some node) :
    (mergeNode r.kind node).deed? = some (r.demand.merge node) := by
  rw [deed?_mergeNode, Demand.merge, Requirement.demand, guided, h]
  rfl

end KnowledgeGraph.Domain
