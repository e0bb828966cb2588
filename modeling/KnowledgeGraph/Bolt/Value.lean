import KnowledgeGraph.Json.Basic
import KnowledgeGraph.Number.Limits

/-!
# Values of the database

What a parameter becomes when it is sent to the database, and what a value of a row becomes when it
is read. An integer beyond 64 bits with a sign is sent as a float. What JSON has no value for is
read as the nearest that it has: a node as its properties, bytes as integers, a float that is no
number as nothing.
-/

namespace KnowledgeGraph.Bolt

inductive Value where
  | null
  | flag (b : Bool)
  | integer (n : Int64)
  | float (x : Binary64)
  | text (s : String)
  | bytes (bytes : ByteArray)
  | list (items : List Value)
  | map (entries : List (String × Value))
  | node (id : Int64) (labels : List String) (properties : List (String × Value))
  deriving Inhabited

def ofNumber : Json.Number → Value
  | .int n => if minInt64 ≤ n ∧ n ≤ maxInt64 then .integer (Int64.ofInt n) else .float (.ofInt n)
  | .float x => .float x

mutual
def ofJson : Json → Value
  | .null => .null
  | .bool b => .flag b
  | .num n => ofNumber n
  | .str s => .text s
  | .arr items => .list (ofItems items)
  | .obj ms => .map (ofMembers ms)
def ofItems : List Json → List Value
  | [] => []
  | j :: js => ofJson j :: ofItems js
def ofMembers : List (String × Json) → List (String × Value)
  | [] => []
  | (k, j) :: ms => (k, ofJson j) :: ofMembers ms
end

def floatJson (x : Binary64) : Json :=
  if x.isFinite then .float x else .null

mutual
def toJson : Value → Json
  | .null => .null
  | .flag b => .bool b
  | .integer n => .int n.toInt
  | .float x => floatJson x
  | .text s => .str s
  | .bytes bytes => .arr (bytes.toList.map fun b => .nat b.toNat)
  | .list items => .arr (toItems items)
  | .map entries => .obj (toMembers entries [])
  | .node _ _ properties => .obj (toMembers properties [])
def toItems : List Value → List Json
  | [] => []
  | v :: vs => toJson v :: toItems vs
def toMembers : List (String × Value) → Json.Members → Json.Members
  | [], acc => acc
  | (k, v) :: es, acc => toMembers es (Json.Members.insert k (toJson v) acc)
end

end KnowledgeGraph.Bolt
