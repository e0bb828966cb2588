import KnowledgeGraph.Proofs.Graph.Clauses
import KnowledgeGraph.Proofs.Json.Members

/-!
# Deeds

What a statement does to the nodes of a graph and to what links them: a reader of the statements
about people and about domains. The text is cut into steps, each from its word to the next. The steps
together are a deed, in which the names of parameters stand for values until they are bound.
-/

namespace KnowledgeGraph.Graph

open Json (Members)

-- ---------------------------------------------------------------------------
-- Steps
-- ---------------------------------------------------------------------------

structure NodePattern where
  name : String
  labels : List String
  properties : List (String × Expr)
  deriving DecidableEq

structure EdgePattern where
  name? : Option String
  types : List String
  properties : List (String × Expr)
  deriving DecidableEq

inductive Pattern where
  | node (n : NodePattern)
  | path (source : NodePattern) (edge : EdgePattern) (target : NodePattern)
  deriving DecidableEq

structure Assignment where
  name : String
  key : String
  value : Expr
  deriving DecidableEq

inductive Step where
  | unwind (list : Expr) (name : String)
  | matching (patterns : List Pattern)
  /-- One of these holds, which is that all of its equations do. -/
  | filter (alternatives : List (List (Expr × Expr)))
  | create (pattern : Pattern)
  | merge (n : NodePattern)
  | onCreate (assignments : List Assignment)
  | set (assignments : List Assignment)
  | delete (name : String)
  /-- Columns; of those that are no plain expressions only the names. -/
  | result (columns : List (Option Expr × String))
  | limit (count : Nat)
  deriving DecidableEq

def cutAtSign? (sign : String) (ws : List String) : Option (List String × List String) :=
  match ws.span (· != sign) with
  | (before, _ :: after) => some (before, after)
  | (_, []) => none

def onlyWord? : List String → Option String
  | [word] => some word
  | _ => none

def readEntry? : List String → Option (String × Expr)
  | [key, ":", value] => (Expr.ofWord? value).map (key, ·)
  | _ => none

def readInner? (ws : List String) : Option (List (List String) × List (String × Expr)) :=
  match ws.span (· != "\x7b") with
  | (head, []) => some (Text.splitBy (· == ":") head, [])
  | (head, _ :: rest) =>
    if rest.getLast? = some "\x7d" then do
      let entries ← (Text.splitBy (· == ",") rest.dropLast).mapM readEntry?
      return (Text.splitBy (· == ":") head, entries)
    else none

def NodePattern.read? (ws : List String) : Option NodePattern := do
  match ← readInner? ws with
  | ([name] :: labels, properties) => return ⟨name, ← labels.mapM onlyWord?, properties⟩
  | _ => none

def EdgePattern.read? (ws : List String) : Option EdgePattern := do
  match ← readInner? ws with
  | ([name, types], properties) =>
    return ⟨name.head?, ← (Text.splitBy (· == "|") types).mapM onlyWord?, properties⟩
  | _ => none

def Pattern.read? : List String → Option Pattern
  | "(" :: ws => do
    let (source, rest) ← cutAtSign? ")" ws
    let source ← NodePattern.read? source
    match rest with
    | [] => return .node source
    | "-" :: "[" :: ws =>
      let (edge, rest) ← cutAtSign? "]" ws
      match rest with
      | "-" :: ">" :: "(" :: ws =>
        let (target, rest) ← cutAtSign? ")" ws
        guard rest.isEmpty
        return .path source (← EdgePattern.read? edge) (← NodePattern.read? target)
      | _ => none
    | _ => none
  | _ => none

def readPatterns? (ws : List String) : Option (List Pattern) :=
  (ws.splitBy fun w w' => !(w == ")" && w' == ",")).mapM fun ws =>
    Pattern.read? (if ws.head? = some "," then ws.tail else ws)

def readEquation? (ws : List String) : Option (Expr × Expr) := do
  let (left, right) ← cutAtSign? "=" ws
  return (← Expr.read? left, ← Expr.read? right)

def readFilter? (ws : List String) : Option (List (List (Expr × Expr))) :=
  (Text.splitBy (· == "OR") ws).mapM fun ws => (Text.splitBy (· == "AND") ws).mapM readEquation?

def readAssignment? (ws : List String) : Option Assignment := do
  match ← readEquation? ws with
  | (.property name key, value) => return ⟨name, key, value⟩
  | _ => none

def readAssignments? (ws : List String) : Option (List Assignment) :=
  (Text.splitBy (· == ",") ws).mapM readAssignment?

def readResult? (ws : List String) : Option (Option Expr × String) :=
  match ws.reverse with
  | name :: "AS" :: rest => some (Expr.read? rest.reverse, name)
  | _ => none

def Step.read? : List String → Option Step
  | ["UNWIND", list, "AS", name] => (Expr.ofWord? list).map (.unwind · name)
  | "MATCH" :: ws => (readPatterns? ws).map .matching
  | "WHERE" :: ws => (readFilter? ws).map .filter
  | "CREATE" :: ws => (Pattern.read? ws).map .create
  | "MERGE" :: ws => do
    match ← Pattern.read? ws with
    | .node n => return .merge n
    | .path .. => none
  | "ON" :: "CREATE" :: "SET" :: ws => (readAssignments? ws).map .onCreate
  | "SET" :: ws => (readAssignments? ws).map .set
  | ["DELETE", name] | ["DETACH", "DELETE", name] => some (.delete name)
  | "RETURN" :: ws => ((Text.splitBy (· == ",") ws).mapM readResult?).map .result
  | ["LIMIT", count] => some (.limit (Nat.ofDigitChars 10 count.toList 0))
  | _ => none

def startsStep (word : String) : Bool :=
  ["UNWIND", "MATCH", "WHERE", "CREATE", "MERGE", "ON", "SET", "DETACH", "DELETE", "RETURN",
    "LIMIT"].contains word

def continuesStep (before word : String) : Bool :=
  !startsStep word || before == "ON" || before == "CREATE" && word == "SET" || before == "DETACH"

def readSteps? (cs : List Char) : Option (List Step) :=
  ((lexemes cs).splitBy continuesStep).mapM Step.read?

-- ---------------------------------------------------------------------------
-- Deeds
-- ---------------------------------------------------------------------------

inductive Field where
  | elementId
  | property (key : String)
  deriving DecidableEq

/-- What a statement does. The values are of a type `α`: texts that name parameters, or what is bound
to them. Nodes that are told by one value are those of that element id. -/
inductive Deed (α : Type) where
  /-- Finds the nodes of a label with one of these combinations of fields. -/
  | find (label : String) (alternatives : List (List (Field × α)))
      (columns : List (Field × String)) (limit? : Option Nat)
  /-- Creates a node; its element id is returned in a column. -/
  | create (labels : List String) (properties : List (String × α)) (column : String)
  /-- Creates a node at the end of a relationship from a node that is there. -/
  | createUnder (label : String) (id : α) (type below : String) (properties : List (String × α))
      (column : String)
  /-- Finds a node by properties, or creates it with them and with some more. -/
  | merge (label : String) (properties new : List (String × α)) (column : String)
  | set (label : String) (id : α) (properties : List (String × α))
  | link (label : String) (id : α) (label' : String) (id' : α) (type : String)
      (properties : List (String × α))
  /-- Deletes the nodes at the end of a relationship from a node. -/
  | deleteUnder (label : String) (id : α) (type below : String)
  /-- Deletes relationships of some types from the nodes of a label to the nodes of a list. -/
  | unlink (label : String) (types : List String) (ids : α)
  deriving DecidableEq

namespace Deed

def param? : Expr → Option String
  | .param name => some name
  | _ => none

def fieldOf? (name : String) : Expr → Option Field
  | .elementId name' => if name' = name then some .elementId else none
  | .property name' key => if name' = name then some (.property key) else none
  | _ => none

def equation? (name : String) (e : Expr × Expr) : Option (Field × String) :=
  return (← fieldOf? name e.1, ← param? e.2)

def idOf? (name : String) : List (List (Expr × Expr)) → Option String
  | [[(.elementId name', e)]] => if name' = name then param? e else none
  | _ => none

def values? (entries : List (String × Expr)) : Option (List (String × String)) :=
  entries.mapM fun (key, e) => (param? e).map (key, ·)

def assigned? (name : String) (assignments : List Assignment) : Option (List (String × String)) :=
  assignments.mapM fun a => if a.name = name then (param? a.value).map (a.key, ·) else none

def columns? (name : String) (columns : List (Option Expr × String)) :
    Option (List (Field × String)) :=
  columns.mapM fun (e?, column) => do return (← fieldOf? name (← e?), column)

def idColumn? (name : String) (columns : List (Option Expr × String)) : Option String := do
  match ← columns? name columns with
  | [(.elementId, column)] => return column
  | _ => none

def ofSteps? : List Step → Option (Deed String)
  | [.matching [.node ⟨n, [label], ps⟩], .result columns, .limit count] => do
    let properties ← values? ps
    return .find label [properties.map fun (key, p) => (.property key, p)] (← columns? n columns)
      (some count)
  | [.matching [.node ⟨n, [label], []⟩], .filter alternatives, .result columns] => do
    return .find label (← alternatives.mapM (·.mapM (equation? n))) (← columns? n columns) none
  | [.create (.node ⟨n, labels, ps⟩), .result columns] => do
    return .create labels (← values? ps) (← idColumn? n columns)
  | [.matching [.node ⟨m, [label], []⟩], .filter alternatives, .create (.node ⟨n, [below], ps⟩),
      .create (.path ⟨m', [], []⟩ ⟨_, [type], []⟩ ⟨n', [], []⟩), .result columns] => do
    guard (m' = m ∧ n' = n)
    return .createUnder label (← idOf? m alternatives) type below (← values? ps)
      (← idColumn? n columns)
  | [.merge ⟨n, [label], ps⟩, .onCreate assignments, .result columns] => do
    return .merge label (← values? ps) (← assigned? n assignments) (← idColumn? n columns)
  | [.matching [.node ⟨n, [label], []⟩], .filter alternatives, .set assignments, .result _] => do
    return .set label (← idOf? n alternatives) (← assigned? n assignments)
  | [.matching [.node ⟨m, [label], []⟩, .node ⟨n, [label'], []⟩], .filter [[e, e']],
      .create (.path ⟨m', [], []⟩ ⟨_, [type], ps⟩ ⟨n', [], []⟩), .result _] => do
    guard (m' = m ∧ n' = n)
    return .link label (← idOf? m [[e]]) label' (← idOf? n [[e']]) type (← values? ps)
  | [.matching [.path ⟨m, [label], []⟩ ⟨_, [type], []⟩ ⟨n, [below], []⟩], .filter alternatives,
      .delete n', .result _] => do
    guard (n' = n)
    return .deleteUnder label (← idOf? m alternatives) type below
  | [.unwind list x, .matching [.path ⟨_, [label], []⟩ ⟨some r, types, []⟩ ⟨n, [], []⟩],
      .filter [[(.elementId n', .var x')]], .delete r', .result _] => do
    guard (n' = n ∧ x' = x ∧ r' = r)
    return .unlink label types (← param? list)
  | _ => none

/-- Makes sure of a node, and answers its element id. -/
def AnswersId : Deed α → Prop
  | create .. | createUnder .. | merge .. => True
  | _ => False

/-- Adds, changes and deletes no node of a label, if nodes of other labels do not have it. -/
def Spares (label : String) : Deed α → Prop
  | find .. | link .. | unlink .. => True
  | create labels .. => label ∉ labels
  | createUnder _ _ _ below .. | deleteUnder _ _ _ below => below ≠ label
  | merge label' .. | set label' .. => label' ≠ label

section
variable (f : α → Option β)

def bindAll? (values : List (γ × α)) : Option (List (γ × β)) :=
  values.mapM fun (c, a) => (f a).map (c, ·)

def bind? : Deed α → Option (Deed β)
  | find label alternatives columns limit? =>
    return find label (← alternatives.mapM (bindAll? f)) columns limit?
  | create labels properties column => return create labels (← bindAll? f properties) column
  | createUnder label id type below properties column =>
    return createUnder label (← f id) type below (← bindAll? f properties) column
  | merge label properties new column =>
    return merge label (← bindAll? f properties) (← bindAll? f new) column
  | set label id properties => return set label (← f id) (← bindAll? f properties)
  | link label id label' id' type properties =>
    return link label (← f id) label' (← f id') type (← bindAll? f properties)
  | deleteUnder label id type below => return deleteUnder label (← f id) type below
  | unlink label types ids => return unlink label types (← f ids)

end

def read? (cs : List Char) : Option (Deed String) := (readSteps? cs).bind ofSteps?

end Deed

def Statement.deed? (st : Statement) : Option (Deed Json) :=
  (Deed.read? st.text.toList).bind (·.bind? (Members.get? · st.params))

theorem Statement.deed?_ofLines {lines : List String} {params : List (String × Json)}
    {columns : List String} (hn : (params.map (·.1)).Nodup)
    (hread : Deed.read? (['\n'].intercalate (lines.map String.toList)) = some d)
    (hbind : d.bind? (List.lookup · params) = some d') :
    (Statement.ofLines lines params columns).deed? = some d' := by
  have htext : ("\n".intercalate lines).toList = ['\n'].intercalate (lines.map String.toList) :=
    String.toList_intercalate
  have hget : (Members.get? · (Members.ofPairs params)) = (List.lookup · params) :=
    funext (Members.get?_ofPairs hn)
  show (Deed.read? ("\n".intercalate lines).toList).bind
    (·.bind? (Members.get? · (Members.ofPairs params))) = _
  rw [htext, hread, hget]
  exact hbind

-- ---------------------------------------------------------------------------
-- Nodes that are found
-- ---------------------------------------------------------------------------

/-- The texts that are known of a node. -/
abbrev Known := Field → Option String

/-- All equations of one of the alternatives hold of the node. Texts are equal to texts only. -/
def Meets (alternatives : List (List (Field × Json))) (known : Known) : Prop :=
  ∃ equations ∈ alternatives, ∀ e ∈ equations, (known e.1).isSome ∧ known e.1 = e.2.str?

instance (alternatives : List (List (Field × Json))) (known : Known) :
    Decidable (Meets alternatives known) :=
  inferInstanceAs (Decidable (∃ equations ∈ alternatives, ∀ e ∈ equations, _))

/-- The row has what is known of the node in its columns. -/
def Shows (columns : List (Field × String)) (known : Known) (row : Record) : Prop :=
  ∀ c ∈ columns, ∀ text, known c.1 = some text → row.str? c.2 = some text

def limited (limit? : Option Nat) (xs : List α) : List α :=
  match limit? with
  | none => xs
  | some count => xs.take count

def Known.row (known : Known) (columns : List (Field × String)) : Record :=
  .ofPairs (columns.map fun (field, column) => (column, .str ((known field).getD "")))

end KnowledgeGraph.Graph
