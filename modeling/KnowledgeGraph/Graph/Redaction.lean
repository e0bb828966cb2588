import KnowledgeGraph.Graph.Record

/-!
# Redaction

Passwords stay in the graph: they are taken out of the properties of every node that is
returned, whichever of its two names the properties go by.
-/

namespace KnowledgeGraph.Graph

def isHidden (key : String) : Bool := key == "password"

def redactProperties : Json → Json
  | .obj ms => .obj (ms.filter fun (key, _) => !isHidden key)
  | v => v

def redactNode : Json → Json
  | .obj ms => .obj (ms.map fun (key, v) =>
      if key = "Props" ∨ key = "props" then (key, redactProperties v) else (key, v))
  | v => v

def redactAffiliates : Json → Json
  | .arr items => .arr (items.map redactNode)
  | v => v

def redactRecord (r : Record) : Record :=
  (r.update "node" redactNode).update "affiliatedNodes" redactAffiliates

end KnowledgeGraph.Graph
