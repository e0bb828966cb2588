import KnowledgeGraph.Telemetry.Event

/-!
# Counters

How often each event has happened, in the order in which they first did, and the text that a
monitor reads: for each counter its name, and a line for each of its kinds.
-/

namespace KnowledgeGraph.Telemetry

/-- Changes the value of a key, or adds one at the end. -/
def adjust (key : String) (f : Option α → α) : List (String × α) → List (String × α)
  | [] => [(key, f none)]
  | (k, a) :: rest => if k = key then (k, f (some a)) :: rest else (k, a) :: adjust key f rest

def escapeLabel (s : String) : String :=
  String.ofList (s.toList.flatMap fun c =>
    if c = '\\' then ['\\', '\\'] else if c = '"' then ['\\', '"']
    else if c = '\n' then ['\\', 'n'] else [c])

def labelText (labels : List (String × String)) : String :=
  if labels.isEmpty then ""
  else "\x7b" ++ ",".intercalate (labels.map fun (k, v) => k ++ "=\"" ++ escapeLabel v ++ "\"")
    ++ "\x7d"

/-- For each counter the kinds that were counted, and how often. -/
abbrev Counters := List (String × List (String × Nat))

namespace Counters

def record (cs : Counters) (e : Event) : Counters :=
  let (name, labels) := e.counter
  adjust name (fun kinds => adjust (labelText labels) (fun n => n.getD 0 + 1) (kinds.getD [])) cs

def text (cs : Counters) : String :=
  String.join (cs.map fun (name, kinds) =>
    "# TYPE " ++ name ++ " counter\n" ++
      String.join (kinds.map fun (labels, n) => name ++ labels ++ " " ++ Nat.repr n ++ "\n") ++ "\n")

end Counters

end KnowledgeGraph.Telemetry
