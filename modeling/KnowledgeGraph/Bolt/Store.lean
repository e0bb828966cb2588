import KnowledgeGraph.Bolt.Value
import KnowledgeGraph.Error
import KnowledgeGraph.Graph.Record
import KnowledgeGraph.Graph.Statement

/-!
# The database as a graph store

A session runs a text with parameters and answers rows of named values, or why it does not. A row
is read column by column; a column that it does not have fails the whole statement.
-/

namespace KnowledgeGraph.Bolt

open KnowledgeGraph.Graph

structure Command where
  text : String
  params : List (String × Value)

def Command.ofStatement (s : Statement) : Command := ⟨s.text, ofMembers s.params⟩

structure Rows where
  fields : List String
  rows : List (List Value)
  /-- Why no more came than these, if it is not that there are no more. -/
  brokeOff : Option String := none

abbrev Session (m : Type → Type) := Command → m (Except String Rows)

def column? (fields : List String) (row : List Value) (name : String) : Option Value := do
  row[← fields.findIdx? (· == name)]?

def readColumn (fields : List String) (row : List Value) (name : String) : Except Failure Json :=
  match column? fields row name with
  | some v => .ok (toJson v)
  | none => .error ⟨"neo4j_decode", "column '" ++ name ++ "': there is no such column"⟩

def readRow (columns fields : List String) (row : List Value) : Except Failure Record := do
  return ⟨columns, ← columns.mapM (readColumn fields row)⟩

/-- The records of an answer that did not break off. -/
def Rows.read (columns : List String) (r : Rows) : Except Failure (List Record) := do
  let records ← r.rows.mapM (readRow columns r.fields)
  match r.brokeOff with
  | none => return records
  | some cause => throw ⟨"neo4j_fetch", cause⟩

def execute [Monad m] (session : Session m) (s : Statement) : m (Except Failure (List Record)) := do
  match ← session (.ofStatement s) with
  | .error cause => return .error ⟨"neo4j_execute", cause⟩
  | .ok found => return found.read s.columns

def run [Monad m] (session : Session m) (s : Statement) : m (Except Failure Unit) := do
  match ← session (.ofStatement s) with
  | .error cause => return .error ⟨"neo4j_run", cause⟩
  | .ok found =>
    match found.brokeOff with
    | none => return .ok ()
    | some cause => return .error ⟨"neo4j_run", cause⟩

end KnowledgeGraph.Bolt
