import KnowledgeGraph.Domain.Statement
import KnowledgeGraph.Proofs.Graph.Deeds

/-!
# Deeds of the statements about domains

Each statement that an edit of a domain sends, read from its text and from the values that are bound.
What a level demands is listed apart from the way in which the requirements of a level are put
together: the four lists one after the other, each with its labels and its grade.
-/

namespace KnowledgeGraph.Domain

open KnowledgeGraph.Graph (Deed Statement)

theorem deed?_idByName (name : String) : (idByName name).deed? =
    some (.find "Domain" [[(.property "name", .str name)]] [(.elementId, "elementId")]
      (some 1)) := by
  refine Statement.deed?_ofLines (d := .find "Domain" [[(.property "name", "name")]]
    [(.elementId, "elementId")] (some 1)) (by simp) ?_ rfl
  simp only [List.map_cons, List.map_nil, String.toList_append, Graph.braced]
  repeat rw [String.toList_ofList]
  decide +kernel

theorem deed?_nameById (domainId : String) : (nameById domainId).deed? =
    some (.find "Domain" [[(.elementId, .str domainId)]] [(.property "name", "name")] none) := by
  refine Statement.deed?_ofLines (d := .find "Domain" [[(.elementId, "domainId")]]
    [(.property "name", "name")] none) (by simp) ?_ rfl
  simp only [List.map_cons, List.map_nil]
  repeat rw [String.toList_ofList]
  decide +kernel

theorem deed?_create (name description : String) : (create name description).deed? =
    some (.create ["Domain"] [("name", .str name), ("description", .str description)]
      "elementId") := by
  refine Statement.deed?_ofLines (d := .create ["Domain"] [("name", "name"),
    ("description", "description")] "elementId") (by simp) ?_ rfl
  simp only [List.map_cons, List.map_nil, String.toList_append, Graph.braced]
  repeat rw [String.toList_ofList]
  decide +kernel

theorem deed?_rename (domainId name description : String) :
    (rename domainId name description).deed? =
      some (.set "Domain" (.str domainId)
        [("name", .str name), ("description", .str description)]) := by
  refine Statement.deed?_ofLines (d := .set "Domain" "domainId" [("name", "name"),
    ("description", "description")]) (by simp) ?_ rfl
  simp only [List.map_cons, List.map_nil]
  repeat rw [String.toList_ofList]
  decide +kernel

theorem deed?_deleteLevels (domainId : String) : (deleteLevels domainId).deed? =
    some (.deleteUnder "Domain" (.str domainId) "HAS_DOMAIN_LEVEL" "Domain_Level") := by
  refine Statement.deed?_ofLines (d := .deleteUnder "Domain" "domainId" "HAS_DOMAIN_LEVEL"
    "Domain_Level") (by simp) ?_ rfl
  simp only [List.map_cons, List.map_nil]
  repeat rw [String.toList_ofList]
  decide +kernel

theorem deed?_deleteProgress (nodeIds : List String) : (deleteProgress nodeIds).deed? =
    some (.unlink "User" ["HAS_KNOWLEDGE", "HAS_SKILL", "HAS_TRAIT", "ACHIEVED"]
      (.strings nodeIds)) := by
  refine Statement.deed?_ofLines (d := .unlink "User" ["HAS_KNOWLEDGE", "HAS_SKILL", "HAS_TRAIT",
    "ACHIEVED"] "nodeIds") (by simp) ?_ rfl
  simp only [List.map_cons, List.map_nil]
  repeat rw [String.toList_ofList]
  decide +kernel

theorem deed?_createLevel (domainId : String) (level : Level) :
    (createLevel domainId level).deed? =
      some (.createUnder "Domain" (.str domainId) "HAS_DOMAIN_LEVEL" "Domain_Level"
        [("level", .int level.level.toInt), ("name", .str level.name),
          ("description", .str (level.description.getD "")),
          ("total_points_required", .int level.pointsRequired.toInt)] "elementId") := by
  refine Statement.deed?_ofLines (d := .createUnder "Domain" "domainId" "HAS_DOMAIN_LEVEL"
    "Domain_Level" [("level", "level"), ("name", "name"), ("description", "description"),
      ("total_points_required", "points")] "elementId") (by simp) ?_ rfl
  simp only [List.map_cons, List.map_nil, String.toList_append, Graph.braced]
  repeat rw [String.toList_ofList]
  decide +kernel

theorem deed?_mergeNode (kind : RequirementKind) (node : NewNode) :
    (mergeNode kind node).deed? =
      some (.merge kind.label [("name", .str (Text.trim node.name))]
        (("description", .str node.description) ::
          ((node.guidance kind).map fun text => (kind.guidanceProperty, Json.str text)).toList)
        "elementId") := by
  unfold mergeNode
  cases node.guidance kind with
  | none =>
    refine Statement.deed?_ofLines (d := .merge kind.label [("name", "name")]
      [("description", "description")] "elementId") (by simp) ?_ rfl
    simp only [List.map_cons, List.map_nil, String.toList_append, Graph.braced, Option.isSome_none,
      Bool.false_eq_true, ↓reduceIte]
    cases kind <;> unfold RequirementKind.label <;> repeat rw [String.toList_ofList]
    all_goals decide +kernel
  | some text =>
    refine Statement.deed?_ofLines (d := .merge kind.label [("name", "name")]
      [("description", "description"), (kind.guidanceProperty, "guidance")] "elementId")
      (by simp) ?_ rfl
    simp only [List.map_cons, List.map_nil, String.toList_append, Graph.braced, Option.isSome_some,
      ↓reduceIte]
    cases kind <;> unfold RequirementKind.label RequirementKind.guidanceProperty <;>
      repeat rw [String.toList_ofList]
    all_goals decide +kernel

def RequirementKind.gradeKey? : RequirementKind → Option String
  | .knowledge => some "bloom_level"
  | .skill => some "dreyfus_level"
  | .trait => some "min_score"
  | .milestone => none

theorem deed?_link (levelId nodeId : String) {r : Requirement}
    (hr : r.grade.map (·.1) = r.kind.gradeKey?) :
    (link levelId nodeId r).deed? =
      some (.link "Domain_Level" (.str levelId) r.kind.label (.str nodeId) r.kind.relationship
        r.grade.toList) := by
  obtain ⟨kind, _, _, _ | ⟨key, value⟩⟩ := r
  · obtain rfl : kind = .milestone := by cases kind <;> first | rfl | cases hr
    refine Statement.deed?_ofLines (d := .link "Domain_Level" "levelId" "Milestone" "nodeId"
      "REQUIRES_MILESTONE" []) (by simp) ?_ rfl
    simp only [List.map_cons, List.map_nil, String.toList_append]
    unfold RequirementKind.label RequirementKind.relationship
    repeat rw [String.toList_ofList]
    decide +kernel
  · refine Statement.deed?_ofLines (d := .link "Domain_Level" "levelId" kind.label "nodeId"
      kind.relationship [(key, "grade")]) (by simp) ?_ rfl
    simp only [List.map_cons, List.map_nil, String.toList_append, Graph.braced]
    cases kind <;> cases hr <;> unfold RequirementKind.label RequirementKind.relationship <;>
      repeat rw [String.toList_ofList]
    all_goals decide +kernel

end KnowledgeGraph.Domain
