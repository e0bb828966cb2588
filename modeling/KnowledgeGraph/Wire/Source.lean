import KnowledgeGraph.Json.Basic

/-!
# What a sender wrote

The tree of a JSON text before it is read as anything: members in their order, repeated keys
included. What is a fault only for a reader who looks at it has a leaf of its own: a number out
of range, a string that is not well-formed text. Where the text breaks off, `broken` stands.
-/

namespace KnowledgeGraph.Wire

inductive Source where
  | null
  | bool (b : Bool)
  | num (n : Json.Number)
  | outOfRange
  | str (s : String)
  | garbled
  | list (items : List Source)
  | object (members : List (Option String × Source))
  | broken
  deriving Inhabited

/-- Why a text is not what it should be: it is no JSON text, or it is one of another shape. -/
inductive Fault where
  | malformed
  | mismatch
  deriving DecidableEq

namespace Source

mutual
/-- Whether the text goes on to its end; a reader who skips the value asks for no more. -/
def isWhole : Source → Bool
  | .list items => allWhole items
  | .object ms => allMembersWhole ms
  | .broken => false
  | _ => true
def allWhole : List Source → Bool
  | [] => true
  | v :: vs => v.isWhole && allWhole vs
def allMembersWhole : List (Option String × Source) → Bool
  | [] => true
  | (_, v) :: ms => v.isWhole && allMembersWhole ms
end

mutual
def ofJson : Json → Source
  | .null => .null
  | .bool b => .bool b
  | .num n => .num n
  | .str s => .str s
  | .arr items => .list (ofItems items)
  | .obj ms => .object (ofMembers ms)
def ofItems : List Json → List Source
  | [] => []
  | v :: vs => ofJson v :: ofItems vs
def ofMembers : List (String × Json) → List (Option String × Source)
  | [] => []
  | (k, v) :: ms => (some k, ofJson v) :: ofMembers ms
end

mutual
def toJson (depth : Nat) : Source → Except Fault Json
  | .null => .ok .null
  | .bool b => .ok (.bool b)
  | .num n => .ok (.num n)
  | .str s => .ok (.str s)
  | .list items =>
    match depth with
    | 0 => .error .malformed
    | depth + 1 => do return .arr (← itemsToJson depth items)
  | .object ms =>
    match depth with
    | 0 => .error .malformed
    | depth + 1 => do return .obj (← membersToJson depth ms [])
  | .outOfRange | .garbled | .broken => .error .malformed
def itemsToJson (depth : Nat) : List Source → Except Fault (List Json)
  | [] => .ok []
  | v :: vs => do
    let j ← toJson depth v
    return j :: (← itemsToJson depth vs)
def membersToJson (depth : Nat) :
    List (Option String × Source) → Json.Members → Except Fault Json.Members
  | [], acc => .ok acc
  | (none, _) :: _, _ => .error .malformed
  | (some k, v) :: ms, acc => do
    let j ← toJson depth v
    membersToJson depth ms (Json.Members.insert k j acc)
end

end Source

def maxDepth : Nat := 127

end KnowledgeGraph.Wire
