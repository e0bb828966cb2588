import KnowledgeGraph.Number.Limits
import KnowledgeGraph.Wire.Source

/-!
# Tables of a TOML document

A table is brought about by a header, by the way to one, by a dotted key or inline, and this says
what may be added to it later: nothing to an inline one, nothing by dotted keys to one with a header
and no header to one made by dotted keys. No key is given twice.
-/

namespace KnowledgeGraph.Toml

inductive Kind where
  /-- Met on the way to another table. -/
  | implicit
  /-- Has its own header. -/
  | headed
  | dotted
  | inline
  deriving DecidableEq

inductive Value where
  | text (s : String)
  | integer (n : Int)
  | float (x : Binary64)
  | flag (b : Bool)
  /-- A date or a time, as it was written. -/
  | moment (s : String)
  | list (items : List Value)
  | table (kind : Kind) (members : List (String × Value))
  /-- The tables under the headers of one list, the last one first. -/
  | tables (ts : List (List (String × Value)))
  deriving Inhabited

structure Table where
  kind : Kind
  members : List (String × Value)

def Table.empty (kind : Kind) : Table := ⟨kind, []⟩

def find? (key : String) : List (String × Value) → Option Value
  | [] => none
  | (k, v) :: rest => if k = key then some v else find? key rest

/-- Gives a key a value, at the place of its old one if it has one. -/
def set (key : String) (v : Value) : List (String × Value) → List (String × Value)
  | [] => [(key, v)]
  | (k, x) :: rest => if k = key then (key, v) :: rest else (k, x) :: set key v rest

def Table.set (t : Table) (key : String) (v : Value) : Table := ⟨t.kind, Toml.set key v t.members⟩

/-- Changes the table at the end of a path; tables are made where there are none. In a list of
tables the last one is meant. -/
def Table.descend (dotted : Bool) (change : Table → Option Table) :
    (path : List String) → Table → Option Table
  | [], t => change t
  | key :: path, t =>
    match find? key t.members with
    | none => do
      let inner ← Table.descend dotted change path (.empty (if dotted then .dotted else .implicit))
      return t.set key (.table inner.kind inner.members)
    | some (.table kind members) =>
      if kind = .inline ∨ dotted ∧ kind = .headed then none
      else do
        let inner ← Table.descend dotted change path ⟨kind, members⟩
        return t.set key (.table inner.kind inner.members)
    | some (.tables (last :: others)) =>
      if dotted then none
      else do
        let inner ← Table.descend dotted change path ⟨.headed, last⟩
        return t.set key (.tables (inner.members :: others))
    | some _ => none

def Table.addKey (path : List String) (key : String) (v : Value) (t : Table) : Option Table :=
  t.descend true (fun parent =>
    if path.isEmpty = (parent.kind = .dotted) then none
    else if (find? key parent.members).isSome then none
    else some (parent.set key v)) path

def Table.openTable (path : List String) (key : String) (t : Table) : Option Table :=
  t.descend false (fun parent =>
    match find? key parent.members with
    | none => some (parent.set key (.table .headed []))
    | some (.table .implicit members) => some (parent.set key (.table .headed members))
    | some _ => none) path

def Table.openItem (path : List String) (key : String) (t : Table) : Option Table :=
  t.descend false (fun parent =>
    match find? key parent.members with
    | none => some (parent.set key (.tables [[]]))
    | some (.tables ts) => some (parent.set key (.tables ([] :: ts)))
    | some _ => none) path

-- ---------------------------------------------------------------------------
-- Values as what a sender wrote.

def momentKey : String := "moment"

def integerSource (n : Int) : Wire.Source :=
  if minInt64 ≤ n ∧ n ≤ maxNat64 then .num (.int n) else .outOfRange

mutual
def Value.source : Value → Wire.Source
  | .text s => .str s
  | .integer n => integerSource n
  | .float x => .num (.float x)
  | .flag b => .bool b
  | .moment s => .object [(some momentKey, .str s)]
  | .list items => .list (sources items)
  | .table _ members => .object (memberSources members)
  | .tables ts => .list (tableSources ts).reverse
def sources : List Value → List Wire.Source
  | [] => []
  | v :: vs => v.source :: sources vs
def memberSources : List (String × Value) → List (Option String × Wire.Source)
  | [] => []
  | (k, v) :: ms => (some k, v.source) :: memberSources ms
def tableSources : List (List (String × Value)) → List Wire.Source
  | [] => []
  | t :: ts => .object (memberSources t) :: tableSources ts
end

end KnowledgeGraph.Toml
