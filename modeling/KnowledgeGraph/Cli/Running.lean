import KnowledgeGraph.Cli.Invocation
import KnowledgeGraph.Config.Loading
import KnowledgeGraph.Schema.Loading
import KnowledgeGraph.Token.Key

/-!
# Running commands

What a command does that ends by itself, what it prints, and what is printed of its error.
-/

namespace KnowledgeGraph.Cli

structure Outcome where
  code : Nat
  output : String := ""
  complaint : String := ""
  deriving DecidableEq

def Outcome.failed (complaint : String) : Outcome := ⟨1, "", complaint ++ "\n"⟩

def programVersion : String := "atlas 0.3.0"

def usage : String :=
  "\n".intercalate ([purpose, "", "Usage: atlas [OPTIONS] <COMMAND>", "", "Commands:"] ++
    Kind.all.map (fun k => "  " ++ k.name) ++ ["", "Options:"] ++
    (Switch.known none).map (fun s => "  " ++ s.text)) ++ "\n"

def Refusal.outcome (r : Refusal) : Outcome :=
  ⟨2, "", if r = .missingCommand then usage else r.message ++ "\n"⟩

-- ---------------------------------------------------------------------------

def generateKey : Workflow String := do
  return Token.freshSecret (← Workflow.entropy Token.freshSecretSize).toList ++ "\n"

def initSchema (s : Config.Settings) (dimensions : Option Nat) : Workflow String := do
  Schema.init s.graph (dimensions.getD s.embedding.dimensions)
  return ""

def summaryText (s : Schema.Summary) : String :=
  "Loaded " ++ Nat.repr s.filesLoaded ++ " file(s), " ++ Nat.repr s.filesFailed ++ " failed, " ++
    Nat.repr s.statements ++ " statement(s)\n"

def loadCypher (path : String) (found : Except Files.Fault Files.Folder) (wiping : Bool) :
    Workflow String := do
  return summaryText (← Schema.load path found wiping)

def Command.context : Command → String
  | .serve _ => "server failed"
  | .initSchema _ => "schema initialization failed"
  | .loadCypher folder _ => "loading " ++ folder ++ " failed"
  | .generateKey => "key generation failed"

def Command.outcome (c : Command) : Except Error String → Outcome
  | .ok output => ⟨0, output, ""⟩
  | .error e => .failed ("Error: " ++ c.context ++ ": " ++ e.display)

def Command.settings (c : Command) (s : Config.Settings) : Config.Settings :=
  match c with
  | .serve (some address) => { s with server := { s.server with address } }
  | _ => s

def settingsOutcome (e : Error) : Outcome :=
  .failed ("Failed to load configuration: " ++ e.display)

def logOutcome (e : Error) : Outcome :=
  .failed ("Failed to initialize observability: " ++ e.display)

end KnowledgeGraph.Cli
