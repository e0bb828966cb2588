import KnowledgeGraph.Number.Binary64
import KnowledgeGraph.Number.Limits

/-!
# JSON values

Integers stay integers from `-2^63` to below `2^64`; every other number is a float. The members
of an object that came from outside are kept sorted by key, so that nothing hangs on the order
in which a client wrote them.
-/

namespace KnowledgeGraph

inductive Json.Number where
  | int (n : Int)
  | float (x : Binary64)
  deriving DecidableEq

inductive Json where
  | null
  | bool (b : Bool)
  | num (n : Json.Number)
  | str (s : String)
  | arr (items : List Json)
  | obj (members : List (String × Json))
  deriving Inhabited, BEq

namespace Json

abbrev Members := List (String × Json)

def int (n : Int) : Json := .num (.int n)
def nat (n : Nat) : Json := .num (.int n)
def float (x : Binary64) : Json := .num (.float x)
def strings (ss : List String) : Json := .arr (ss.map .str)

def ofOption (f : α → Json) : Option α → Json
  | none => .null
  | some a => f a

def str? : Json → Option String
  | .str s => some s
  | _ => none

def Number.toFloat : Number → Binary64
  | .int n => .ofInt n
  | .float x => x

/-- The value as a float; an integer is rounded. -/
def float? : Json → Option Binary64
  | .num n => some n.toFloat
  | _ => none

def int64? : Json → Option Int
  | .num (.int n) => if n ≤ maxInt64 then some n else none
  | _ => none

namespace Members

def get? (key : String) : Members → Option Json
  | [] => none
  | (k, v) :: rest => if k = key then some v else get? key rest

/-- Puts a member at its place in the order of keys; the last value of a key wins. -/
def insert (key : String) (value : Json) : Members → Members
  | [] => [(key, value)]
  | (k, v) :: rest =>
    if k = key then (key, value) :: rest
    else if key < k then (key, value) :: (k, v) :: rest
    else (k, v) :: insert key value rest

def ofPairs (pairs : List (String × Json)) : Members :=
  pairs.foldl (fun ms (k, v) => insert k v ms) []

theorem get?_insert (key other : String) (value : Json) (ms : Members) :
    get? other (insert key value ms) = if key = other then some value else get? other ms := by
  induction ms with
  | nil => simp [insert, get?]
  | cons m ms ih =>
    obtain ⟨k, v⟩ := m
    simp only [insert]
    split
    · next h => subst h; by_cases h' : k = other <;> simp [get?, h']
    · split
      · simp [get?]
      · next hne _ =>
        by_cases hk : k = other
        · subst hk; simp [get?, Ne.symm hne]
        · simp [get?, hk, ih]

end Members

end Json

end KnowledgeGraph
