import KnowledgeGraph.Embedding.Client
import KnowledgeGraph.Graph.Settings
import KnowledgeGraph.Imaging.Client
import KnowledgeGraph.Network.Address
import KnowledgeGraph.Number.Limits
import KnowledgeGraph.Telemetry.Settings
import KnowledgeGraph.Token.Secret
import KnowledgeGraph.Traffic.Limiter

/-!
# Settings

All that the service is told before it starts, and what holds if it is told nothing.
-/

namespace KnowledgeGraph.Config

structure Server where
  address : Network.Address := ⟨.v4 [0, 0, 0, 0], 8000⟩
  allowedOrigins : List String := []
  maxBodyBytes : Nat := 10485760

structure Database where
  uri : String := "127.0.0.1:7687"
  user : String := "neo4j"
  password : String := "neo4j"
  database : String := "neo4j"
  maxConnections : Nat := 16

inductive Backend where
  | s3
  | memory
  deriving DecidableEq

def Backend.read (s : String) : Backend :=
  if Telemetry.word s ∈ ["memory", "mem", "in-memory"] then .memory else .s3

structure Storage where
  backend : Backend := .s3
  bucket : Option String := none
  region : String := "us-east-2"

structure Settings where
  server : Server := {}
  database : Database := {}
  tokens : Token.Settings := ⟨none, Token.defaultLifetimeHours⟩
  limits : Traffic.Limits := Traffic.defaultLimits
  embedding : Embedding.Settings := {}
  imaging : Imaging.Settings := {}
  storage : Storage := {}
  graph : Graph.Settings := {}
  telemetry : Telemetry.Settings := ⟨none, none⟩

-- ---------------------------------------------------------------------------
-- Numbers and addresses in texts.

/-- The digits of a number, which may have a plus sign. -/
def digits (s : String) : List Char :=
  match s.toList with
  | '+' :: ds => ds
  | ds => ds

def readNat? (limit : Nat) (s : String) : Option Nat :=
  let n := (digits s).foldl (fun n c => n * 10 + (c.toNat - 48)) 0
  if (digits s).isEmpty || !(digits s).all Char.isDigit || limit < n then none else some n

def readPort? : String → Option Nat := readNat? maxNat16

/-- An address to listen on, or only its port. -/
def readAddress (s : String) : Except Error Network.Address :=
  let s := Text.trim s
  match readPort? s with
  | some port => .ok { ({} : Server).address with port }
  | none =>
    match Network.Address.read? s with
    | some a => .ok a
    | none =>
      .error (.invalidInput ("invalid listen address '" ++ s ++ "': invalid socket address syntax"))

end KnowledgeGraph.Config
