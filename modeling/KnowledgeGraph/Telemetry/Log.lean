import KnowledgeGraph.Calendar
import KnowledgeGraph.Json.Writer
import KnowledgeGraph.Telemetry.Settings
import KnowledgeGraph.Text.Split

/-!
# Lines of a log

What happened, how much it matters and which part of the program says so. A filter is a list of
rules; of those whose part a line belongs to, the one that names it most exactly decides how much
a line must matter to be written.
-/

namespace KnowledgeGraph.Telemetry

inductive Level where
  | trace
  | debug
  | info
  | warn
  | error
  deriving DecidableEq

namespace Level

def name : Level → String
  | .trace => "TRACE"
  | .debug => "DEBUG"
  | .info => "INFO"
  | .warn => "WARN"
  | .error => "ERROR"

def rank : Level → Nat
  | .trace => 0
  | .debug => 1
  | .info => 2
  | .warn => 3
  | .error => 4

def all : List Level := [.trace, .debug, .info, .warn, .error]

end Level

structure Line where
  level : Level
  part : String
  message : String
  deriving DecidableEq

-- ---------------------------------------------------------------------------
-- Filters.

/-- From which level on lines of a part are written; without a level none are. -/
structure Rule where
  part : String
  least : Option Level
  deriving DecidableEq

/-- The level that a word names; `off` names none. -/
def least? (s : String) : Option (Option Level) :=
  if word s = "off" then some none
  else (Level.all.find? fun l => word l.name = word s).map some

/-- A rule such as `atlas=info`, a part alone, or a level alone. -/
def Rule.read (s : String) : Option Rule :=
  match Text.splitOnce? '=' s with
  | some (part, level) => (least? level).map (⟨part, ·⟩)
  | none =>
    match least? s with
    | some least => some ⟨"", least⟩
    | none => some ⟨s, some .trace⟩

def rules? (s : String) : Option (List Rule) :=
  ((Text.split ',' s).filter (!Text.isBlankText ·)).mapM Rule.read

def Logging.rules (l : Logging) : List Rule :=
  match rules? l.filter with
  | some [] => [⟨"", some .error⟩]
  | some rules => rules
  | none => (rules? defaultFilter).getD []

/-- The rule that names a part most exactly, the last of them if there are several. -/
def ruleFor (part : String) (rules : List Rule) : Option Rule :=
  (rules.filter fun r => (Text.stripLead? part r.part).isSome).foldl (fun best r =>
    if best.any fun b => r.part.length < b.part.length then best else some r) none

def isWritten (rules : List Rule) (l : Line) : Bool :=
  ((ruleFor l.part rules).bind (·.least)).any fun least => least.rank ≤ l.level.rank

-- ---------------------------------------------------------------------------
-- Text.

/-- A time as `2023-11-14T22:13:20Z`. -/
def stamp (seconds : Nat) : String :=
  String.ofList ((Calendar.timestamp seconds).toList.map fun c => if c = ' ' then 'T' else c) ++ "Z"

def Line.text (format : LogFormat) (seconds : Nat) (l : Line) : String :=
  match format with
  | .pretty =>
    let level := String.ofList (List.replicate (5 - l.level.name.length) ' ') ++ l.level.name
    stamp seconds ++ " " ++ level ++ " " ++ l.part ++ ": " ++ l.message
  | .json =>
    (Json.obj [("timestamp", .str (stamp seconds)), ("level", .str l.level.name),
      ("fields", .obj [("message", .str l.message)]), ("target", .str l.part)]).text

end KnowledgeGraph.Telemetry
