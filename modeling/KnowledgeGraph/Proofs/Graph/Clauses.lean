import KnowledgeGraph.Graph.Record
import KnowledgeGraph.Graph.Statement
import KnowledgeGraph.Text.Blank
import KnowledgeGraph.Text.Split

/-!
# Clauses of a statement

A reader of statements that search for nodes, and what a graph with vector indexes answers to them.
Each clause makes one table of another, the first of them of the table with one empty row; the
columns of the last table are the answer.
-/

namespace KnowledgeGraph.Graph

open Json (Members)

-- ---------------------------------------------------------------------------
-- The reader
-- ---------------------------------------------------------------------------

inductive Expr where
  | var (name : String)
  | property (name key : String)
  | elementId (name : String)
  | param (name : String)
  deriving DecidableEq

inductive Clause where
  | nodes (name : String)
  | filter (left : Expr) (equal : Bool) (right : Expr)
  | search (index count vector : Expr)
  | result (columns : List (Expr × String))
  | orderDesc (column : String)
  | limit (count : Expr)
  deriving DecidableEq

def isWordChar (c : Char) : Bool := c.isAlphanum || c == '_' || c == '.' || c == '$'

def lexemes (cs : List Char) : List String :=
  ((cs.splitBy fun a b => isWordChar a && isWordChar b || a == '<' && b == '>').map
    String.ofList).filter (!Text.isBlankText ·)

def Expr.ofWord? (word : String) : Option Expr :=
  match word.toList, Text.split '.' word with
  | '$' :: name, _ => some (.param (String.ofList name))
  | _, [name] => some (.var name)
  | _, [name, key] => some (.property name key)
  | _, _ => none

def Expr.read? : List String → Option Expr
  | ["elementId", "(", name, ")"] => some (.elementId name)
  | [word] => Expr.ofWord? word
  | _ => none

def readColumn? (ws : List String) : Option (Expr × String) :=
  match ws.reverse with
  | [name] => (Expr.ofWord? name).map (·, name)
  | name :: "AS" :: rest => (Expr.read? rest.reverse).map (·, name)
  | _ => none

def Clause.read? : List String → Option Clause
  | ["MATCH", "(", name, ")"] => some (.nodes name)
  | "WHERE" :: ws =>
    match ws.span fun w => w != "=" && w != "<>" with
    | (left, op :: right) => do return .filter (← Expr.read? left) (op == "=") (← Expr.read? right)
    | _ => none
  | ["CALL", "db.index.vector.queryNodes", "(", index, ",", count, ",", vector, ")",
      "YIELD", "node", ",", "score"] => do
    return .search (← Expr.ofWord? index) (← Expr.ofWord? count) (← Expr.ofWord? vector)
  | "RETURN" :: ws => ((Text.splitBy (· == ",") ws).mapM readColumn?).map .result
  | ["ORDER", "BY", column, "DESC"] => some (.orderDesc column)
  | ["LIMIT", count] => (Expr.ofWord? count).map .limit
  | _ => none

def isKeyword (word : String) : Bool :=
  ["MATCH", "WHERE", "CALL", "RETURN", "ORDER", "LIMIT"].contains word

def readClauses (cs : List Char) : Option (List Clause) :=
  ((lexemes cs).splitBy fun _ word => !isKeyword word).mapM Clause.read?

-- ---------------------------------------------------------------------------
-- Tables
-- ---------------------------------------------------------------------------

structure Vertex where
  elementId : String
  labels : List String
  properties : Members

def Vertex.property (v : Vertex) (key : String) : Json := (Members.get? key v.properties).getD .null

structure Hit where
  vertex : Vertex
  score : Binary64

inductive Value where
  | data (j : Json)
  | vertex (v : Vertex)

def Value.toJson : Value → Json
  | .data j => j
  | .vertex v => .obj v.properties

/-- Whether two texts are the same. Nothing else is compared. -/
def Value.same? : Value → Value → Option Bool
  | .data (.str s), .data (.str t) => some (s = t)
  | _, _ => none

abbrev Row := List (String × Value)

def Row.value (row : Row) (name : String) : Value := (row.lookup name).getD (.data .null)

/-- A graph with vector indexes. -/
structure VectorGraph where
  vertices : List Vertex
  distinct : (vertices.map (·.elementId)).Nodup
  /-- What an index finds if it is asked for so many nodes by a vector. -/
  nearest : String → Nat → Json → Option (List Hit)
  /-- The order in which values are sorted. -/
  le : Value → Value → Bool
  le_trans : ∀ a b c, le a b → le b c → le a c
  le_total : ∀ a b, le a b || le b a

-- ---------------------------------------------------------------------------
-- Answers
-- ---------------------------------------------------------------------------

section
variable (g : VectorGraph) (params : Members)

def Expr.eval (row : Row) : Expr → Value
  | .var name => row.value name
  | .property name key =>
    match row.value name with
    | .vertex v => .data (v.property key)
    | .data _ => .data .null
  | .elementId name =>
    match row.value name with
    | .vertex v => .data (.str v.elementId)
    | .data _ => .data .null
  | .param name => .data ((Members.get? name params).getD .null)

def Hit.row (row : Row) (h : Hit) : Row :=
  ("node", .vertex h.vertex) :: ("score", .data (.float h.score)) :: row

def VectorGraph.search (index count vector : Value) : Option (List Hit) :=
  match index, count, vector with
  | .data (.str name), .data (.num (.int n)), .data v => g.nearest name n.toNat v
  | _, _, _ => none

def VectorGraph.run (table : List Row) : Clause → Option (List Row)
  | .nodes name =>
    some (table.flatMap fun row => g.vertices.map fun v => (name, .vertex v) :: row)
  | .filter left equal right =>
    some (table.filter fun row =>
      (left.eval params row).same? (right.eval params row) == some equal)
  | .search index count vector => do
    let found ← table.mapM fun row => do
      let hits ← g.search (index.eval params row) (count.eval params row) (vector.eval params row)
      return hits.map (·.row row)
    return found.flatten
  | .result columns =>
    some (table.map fun row => columns.map fun (e, name) => (name, e.eval params row))
  | .orderDesc column =>
    some (table.mergeSort fun a b => g.le (b.value column) (a.value column))
  | .limit count =>
    match count.eval params [] with
    | .data (.num (.int n)) => some (table.take n.toNat)
    | _ => none

end

/-- What a graph answers to a statement that searches for nodes. -/
def VectorGraph.answer? (g : VectorGraph) (st : Statement) : Option (List Record) := do
  let table ← (← readClauses st.text.toList).foldlM (g.run st.params) [[]]
  return table.map fun row => ⟨st.columns, st.columns.map fun column => (row.value column).toJson⟩

end KnowledgeGraph.Graph
