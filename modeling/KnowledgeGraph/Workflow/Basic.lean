import KnowledgeGraph.Asset.Store
import KnowledgeGraph.Graph.Record
import KnowledgeGraph.Graph.Statement
import KnowledgeGraph.Telemetry.Counters

/-!
# Workflows

An operation as the calls that it makes on the world around it: the graph store, the embedder,
the image generator, the object store, the clock and the source of randomness. What it does next
is a function of what a call answers, so that a law about an operation is a law for all backends.
A backend answers or fails; only the workflow decides what a failure means.
-/

namespace KnowledgeGraph

inductive Call where
  | query (statement : Graph.Statement)
  /-- A statement whose rows do not count. -/
  | command (statement : Graph.Statement)
  | embed (text : String)
  | draw (prompt : String)
  | put (bucket key : String) (object : Asset.Object)
  | get (bucket key : String)
  /-- Seconds since 1970. -/
  | now
  | entropy (count : Nat)
  | count (event : Telemetry.Event)
  | counters
  | note (user text : String)

@[reducible] def Call.Answer : Call → Type
  | .query _ => Except Failure (List Graph.Record)
  | .command _ => Except Failure Unit
  | .embed _ => Except Failure (List Binary64)
  | .draw _ => Except Failure ByteArray
  | .put _ _ _ => Except Failure Unit
  | .get _ _ => Except Failure (Option Asset.Object)
  | .now => Nat
  | .entropy _ => ByteArray
  | .count _ => Unit
  | .counters => Telemetry.Counters
  | .note _ _ => Unit

inductive Workflow (α : Type) where
  | done (result : Except Error α)
  | ask (call : Call) (next : call.Answer → Workflow α)

namespace Workflow

def bind : Workflow α → (α → Workflow β) → Workflow β
  | .done (.ok a), f => f a
  | .done (.error e), _ => .done (.error e)
  | .ask c next, f => .ask c fun answer => (next answer).bind f

instance : Monad Workflow where
  pure a := .done (.ok a)
  bind := bind

def refuse (e : Error) : Workflow α := .done (.error e)

def ofExcept (r : Except Error α) : Workflow α := .done r

/-- Goes on with what a backend answered; its failure ends the workflow. -/
def orFail (f : α → Workflow β) : Except Failure α → Workflow β
  | .ok a => f a
  | .error failure => refuse failure.toError

def query (s : Graph.Statement) : Workflow (List Graph.Record) := .ask (.query s) (orFail pure)

def command (s : Graph.Statement) : Workflow Unit := .ask (.command s) (orFail pure)

def embed (text : String) : Workflow (List Binary64) := .ask (.embed text) (orFail pure)

def draw (prompt : String) : Workflow ByteArray := .ask (.draw prompt) (orFail pure)

def put (bucket key : String) (o : Asset.Object) : Workflow Unit :=
  .ask (.put bucket key o) (orFail pure)

/-- The object at a place; that there is none is an error of the request. -/
def get (bucket key : String) : Workflow Asset.Object :=
  .ask (.get bucket key) (orFail fun
    | some o => pure o
    | none => refuse (.notFound ("object '" ++ key ++ "' in bucket '" ++ bucket ++ "'")))

def now : Workflow Nat := .ask .now pure

def entropy (n : Nat) : Workflow ByteArray := .ask (.entropy n) pure

def count (e : Telemetry.Event) : Workflow Unit := .ask (.count e) pure

def counters : Workflow Telemetry.Counters := .ask .counters pure

def note (user text : String) : Workflow Unit := .ask (.note user text) pure

/-- What an operation came to, as a value that its caller can look at. -/
def attempt : Workflow α → Workflow (Except Error α)
  | .done r => pure r
  | .ask c next => .ask c fun answer => (next answer).attempt

/-- Runs against backends, which may change as they answer. -/
def run (answer : (c : Call) → σ → c.Answer × σ) : Workflow α → σ → Except Error α × σ
  | .done r, s => (r, s)
  | .ask c next, s =>
    let (a, s) := answer c s
    (next a).run answer s

/-- Runs against backends that act on the world. -/
def perform [Monad m] (answer : (c : Call) → m c.Answer) : Workflow α → m (Except Error α)
  | .done r => pure r
  | .ask c next => do (next (← answer c)).perform answer

theorem run_bind (answer : (c : Call) → σ → c.Answer × σ) (w : Workflow α) (f : α → Workflow β)
    (s : σ) :
    (w >>= f).run answer s =
      match w.run answer s with
      | (.ok a, s) => (f a).run answer s
      | (.error e, s) => (.error e, s) := by
  show (bind w f).run answer s = _
  induction w generalizing s with
  | done r => cases r <;> rfl
  | ask c next ih => simp only [bind, run]; exact ih ..

end Workflow

end KnowledgeGraph
