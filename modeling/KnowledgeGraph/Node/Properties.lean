import KnowledgeGraph.Json.Writer

/-!
# Properties that the graph can hold

A property is a scalar or a list; an object, or a list with an object in it, is kept as its JSON
text.
-/

namespace KnowledgeGraph.Node

def isObject : Json → Bool
  | .obj _ => true
  | _ => false

def flattenValue (v : Json) : Json :=
  match v with
  | .obj _ => .str v.text
  | .arr items => if items.any isObject then .str v.text else v
  | _ => v

def flatten (properties : Json.Members) : Json.Members :=
  properties.map fun (key, v) => (key, flattenValue v)

end KnowledgeGraph.Node
