import KnowledgeGraph.Graph.Identifier
import KnowledgeGraph.Graph.Settings
import KnowledgeGraph.Schema.Script
import KnowledgeGraph.Workflow.Checks

/-!
# Setting up the graph

The index that similarity is searched in, the constraint on names, and the contents of scripts. A
failing statement ends its script, but not the loading.
-/

namespace KnowledgeGraph.Schema

open KnowledgeGraph.Graph

def silent (lines : List String) : Statement := .ofLines lines [] []

def createIndex (settings : Settings) (dimensions : Nat) : Except Error Statement := do
  let index ← quote settings.vectorIndex
  let label ← quote settings.vectorLabel
  return silent ["CREATE VECTOR INDEX " ++ index ++ " IF NOT EXISTS",
    "FOR (n:" ++ label ++ ") ON (n.embedding)",
    "OPTIONS " ++ braced ("indexConfig: " ++ braced ("\x60vector.dimensions\x60: " ++
      Nat.repr dimensions ++ ", \x60vector.similarity_function\x60: 'cosine'"))]

def createConstraint : Statement :=
  silent ["CREATE CONSTRAINT person_username IF NOT EXISTS",
    "FOR (p:Person) REQUIRE p.username IS UNIQUE"]

def init (settings : Settings) (dimensions : Nat) : Workflow Unit := do
  if dimensions = 0 then
    Workflow.refuse (.invalidInput "dimensions must be greater than zero")
  let index ← createIndex settings dimensions
  Workflow.command index
  Workflow.command createConstraint

-- ---------------------------------------------------------------------------
-- Loading.

structure Summary where
  filesLoaded : Nat
  filesFailed : Nat
  statements : Nat
  deriving DecidableEq

/-- Runs statements up to the first that fails; the result is how many were run, and whether all
were. -/
def runStatements : List String → Workflow (Nat × Bool)
  | [] => return (0, true)
  | s :: ss => do
    match ← (Workflow.command (silent [s])).attempt with
    | .error _ => return (0, false)
    | .ok _ =>
      let (n, all) ← runStatements ss
      return (n + 1, all)

def scriptText (s : Script) : Except Error String :=
  match s.content >>= Files.readText with
  | .ok text => .ok text
  | .error fault => .error (.operationFailed "read_cypher_file" (s.path ++ ": " ++ fault.text))

def Summary.add (sum : Summary) (count : Nat) (all : Bool) : Summary where
  filesLoaded := sum.filesLoaded + if all then 1 else 0
  filesFailed := sum.filesFailed + if all then 0 else 1
  statements := sum.statements + count

/-- Runs scripts one after the other; each is read when its turn comes. -/
def runScripts : List Script → Summary → Workflow Summary
  | [], sum => return sum
  | s :: ss, sum => do
    let text ← scriptText s
    let (count, all) ← runStatements (splitStatements text)
    runScripts ss (sum.add count all)

def wipe : Statement := silent ["MATCH (n) DETACH DELETE n"]

/-- Runs the scripts of the folder that was found at a path, on an emptied graph if asked for. -/
def load (path : String) (found : Except Files.Fault Files.Folder) (wiping : Bool) :
    Workflow Summary := do
  let scripts ← collect path found
  if wiping then Workflow.command wipe
  runScripts scripts ⟨0, 0, 0⟩

end KnowledgeGraph.Schema
