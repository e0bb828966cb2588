import KnowledgeGraph.Domain.Request
import KnowledgeGraph.Graph.Statement

/-!
# Statements about domains
-/

namespace KnowledgeGraph.Domain

open KnowledgeGraph.Graph

def collected (var entries name : String) : String :=
  "collect(DISTINCT CASE WHEN " ++ var ++ " IS NOT NULL THEN " ++ braced entries ++ " END) AS " ++
    name

def generalization (var : String) : String :=
  "generalizesTo: CASE WHEN " ++ var ++ " IS NOT NULL THEN " ++
    braced ("elementId: elementId(" ++ var ++ "), name: " ++ var ++ ".name") ++ " END"

def byName (name : String) : Statement :=
  .ofLines
    ["MATCH (domain:Domain " ++ braced "name: $name" ++ ")",
     "OPTIONAL MATCH (domain)-[:HAS_DOMAIN_LEVEL]->(level:Domain_Level)",
     "OPTIONAL MATCH (level)-[kr:REQUIRES_KNOWLEDGE]->(k:Knowledge)",
     "OPTIONAL MATCH (level)-[sr:REQUIRES_SKILL]->(s:Skill)",
     "OPTIONAL MATCH (level)-[tr:REQUIRES_TRAIT]->(t:Trait)",
     "OPTIONAL MATCH (level)-[:REQUIRES_MILESTONE]->(m:Milestone)",
     "OPTIONAL MATCH (s)-[:GENERALIZES_TO]->(gs:Skill)",
     "OPTIONAL MATCH (k)-[:GENERALIZES_TO]->(gk:Knowledge)",
     "WITH domain, level,",
     collected "k" ("elementId: elementId(k), type: 'knowledge', name: k.name, " ++
       "description: k.description, howToLearn: k.how_to_learn, bloomLevel: kr.bloom_level, " ++
       generalization "gk") "knowledge" ++ ",",
     collected "s" ("elementId: elementId(s), type: 'skill', name: s.name, " ++
       "description: s.description, howToDevelop: s.how_to_develop, " ++
       "dreyfusLevel: sr.dreyfus_level, " ++ generalization "gs") "skills" ++ ",",
     collected "t" ("elementId: elementId(t), type: 'trait', name: t.name, " ++
       "description: t.description, measurementCriteria: t.measurement_criteria, " ++
       "minScore: tr.min_score") "traits" ++ ",",
     collected "m" ("elementId: elementId(m), type: 'milestone', name: m.name, " ++
       "description: m.description, howToAchieve: m.how_to_achieve") "milestones",
     "ORDER BY level.level",
     "WITH domain, collect(CASE WHEN level IS NOT NULL THEN " ++
       braced ("elementId: elementId(level), level: level.level, name: level.name, " ++
         "description: level.description, pointsRequired: level.total_points_required, " ++
         "knowledge: knowledge, skills: skills, traits: traits, milestones: milestones") ++
       " END) AS levels",
     "RETURN " ++ braced ("elementId: elementId(domain), name: domain.name, " ++
       "description: domain.description, levels: levels") ++ " AS result"]
    [("name", .str name)] ["result"]

def idByName (name : String) : Statement :=
  .ofLines ["MATCH (d:Domain " ++ braced "name: $name" ++ ")",
      "RETURN elementId(d) AS elementId", "LIMIT 1"]
    [("name", .str name)] ["elementId"]

def nameById (domainId : String) : Statement :=
  .ofLines ["MATCH (d:Domain)", "WHERE elementId(d) = $domainId", "RETURN d.name AS name"]
    [("domainId", .str domainId)] ["name"]

def create (name description : String) : Statement :=
  .ofLines ["CREATE (d:Domain " ++ braced "name: $name, description: $description" ++ ")",
      "RETURN elementId(d) AS elementId"]
    [("name", .str name), ("description", .str description)] ["elementId"]

def rename (domainId name description : String) : Statement :=
  .ofLines ["MATCH (d:Domain)", "WHERE elementId(d) = $domainId",
      "SET d.name = $name, d.description = $description", "RETURN elementId(d) AS elementId"]
    [("domainId", .str domainId), ("name", .str name), ("description", .str description)]
    ["elementId"]

def deleteLevels (domainId : String) : Statement :=
  .ofLines ["MATCH (d:Domain)-[:HAS_DOMAIN_LEVEL]->(l:Domain_Level)",
      "WHERE elementId(d) = $domainId", "DETACH DELETE l", "RETURN count(*) AS deleted"]
    [("domainId", .str domainId)] ["deleted"]

def deleteProgress (nodeIds : List String) : Statement :=
  .ofLines ["UNWIND $nodeIds AS nodeId",
      "MATCH (u:User)-[r:HAS_KNOWLEDGE|HAS_SKILL|HAS_TRAIT|ACHIEVED]->(n)",
      "WHERE elementId(n) = nodeId", "DELETE r", "RETURN count(r) AS deletedCount"]
    [("nodeIds", .strings nodeIds)] ["deletedCount"]

def createLevel (domainId : String) (level : Level) : Statement :=
  .ofLines ["MATCH (d:Domain)", "WHERE elementId(d) = $domainId",
      "CREATE (l:Domain_Level " ++ braced ("level: $level, name: $name, " ++
        "description: $description, total_points_required: $points") ++ ")",
      "CREATE (d)-[:HAS_DOMAIN_LEVEL]->(l)", "RETURN elementId(l) AS elementId"]
    [("domainId", .str domainId), ("level", .int level.level.toInt), ("name", .str level.name),
      ("description", .str (level.description.getD "")),
      ("points", .int level.pointsRequired.toInt)]
    ["elementId"]

/-- The node of a kind and a name. Description and guidance are set only if it is new. -/
def mergeNode (kind : RequirementKind) (node : NewNode) : Statement :=
  let guidance := node.guidance kind
  .ofLines ["MERGE (n:" ++ kind.label ++ " " ++ braced "name: $name" ++ ")",
      "ON CREATE SET n.description = $description" ++
        (if guidance.isSome then ", n." ++ kind.guidanceProperty ++ " = $guidance" else ""),
      "RETURN elementId(n) AS elementId"]
    ([("name", .str (Text.trim node.name)), ("description", .str node.description)] ++
      (guidance.map fun text => ("guidance", Json.str text)).toList)
    ["elementId"]

/-- Links a level to a node that it requires; the grade is kept on the link. -/
def link (levelId nodeId : String) (r : Requirement) : Statement :=
  let grade := match r.grade with
    | some (key, _) => " " ++ braced (key ++ ": $grade")
    | none => ""
  .ofLines ["MATCH (l:Domain_Level), (n:" ++ r.kind.label ++ ")",
      "WHERE elementId(l) = $levelId AND elementId(n) = $nodeId",
      "CREATE (l)-[r:" ++ r.kind.relationship ++ grade ++ "]->(n)",
      "RETURN count(r) AS linked"]
    ([("levelId", .str levelId), ("nodeId", .str nodeId)] ++
      (r.grade.map fun (_, value) => ("grade", value)).toList)
    ["linked"]

end KnowledgeGraph.Domain
