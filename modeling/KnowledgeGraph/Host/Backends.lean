import KnowledgeGraph.Bolt.Store
import KnowledgeGraph.Config.Settings
import KnowledgeGraph.Exchange.Transfer
import KnowledgeGraph.Host.Database
import KnowledgeGraph.Telemetry.Log
import KnowledgeGraph.Workflow.Basic
import Std.Time.DateTime.Timestamp

/-!
# Backends

What answers the calls of workflows in a running program: the database, other services over HTTP,
objects in memory, the clock of the system and its source of randomness.
-/

namespace KnowledgeGraph.Host

open Std.Async

def unixTime : IO Nat := return (← Std.Time.Timestamp.now).toSecondsSinceUnixEpoch.val.toNat

-- ---------------------------------------------------------------------------
-- The log.

structure Log where
  settings : Telemetry.Logging
  rules : List Telemetry.Rule
  target : IO.FS.Stream

def Log.write (l : Log) (line : Telemetry.Line) : IO Unit := do
  if Telemetry.isWritten l.rules line then
    l.target.putStrLn (line.text l.settings.format (← unixTime))
    l.target.flush

def Log.start (settings : Telemetry.Logging) : IO (Except Error Log) := do
  match settings.file with
  | none => return .ok ⟨settings, settings.rules, ← IO.getStderr⟩
  | some path =>
    try
      let handle ← IO.FS.Handle.mk path .append
      return .ok ⟨settings, settings.rules, IO.FS.Stream.ofHandle handle⟩
    catch e => return .error (.operationFailed "open_log_file" (path ++ ": " ++ toString e))

-- ---------------------------------------------------------------------------
-- Other services.

/-- Sends a request on a connection of its own. Nothing is sent over `https`. -/
def sender (seconds : Nat) : Exchange.Sender Async := fun request url => do
  try
    if url.scheme ≠ "http" then return .error (.unanswered url)
    let response ← within seconds do
      let client ← connect (.read 80 (url.authority.getD ""))
      send client (request.bytes url)
      receiveAll client []
    match response.bind Exchange.Response.read? with
    | some r => return .ok r
    | none => return .error (.unanswered url)
  catch _ => return .error (.unanswered url)

-- ---------------------------------------------------------------------------
-- All of them.

structure Backends where
  settings : Config.Settings
  database : Database
  objects : IO.Ref Asset.Store
  counters : IO.Ref Telemetry.Counters
  log : Log

namespace Backends

def new (settings : Config.Settings) (log : Log) : IO Backends := do
  return ⟨settings, ← Database.new settings.database, ← IO.mkRef .empty, ← IO.mkRef [], log⟩

def keepsInMemory (b : Backends) : Bool := b.settings.storage.backend = .memory

def noStore (operation : String) : Failure := ⟨operation, "no store of objects can be reached"⟩

def answer (b : Backends) : (c : Call) → Async c.Answer
  | .query s => Bolt.execute b.database.session s
  | .command s => Bolt.run b.database.session s
  | .embed text =>
    Embedding.embed b.settings.embedding (sender b.settings.embedding.timeoutSeconds) text
  | .draw prompt =>
    match b.settings.imaging.endpoint with
    | some endpoint =>
      Imaging.generate b.settings.imaging (sender b.settings.imaging.timeoutSeconds) endpoint prompt
    | none => return .error ⟨"image_generation_request", "there is no endpoint"⟩
  | .put bucket key object => do
    if b.keepsInMemory then
      b.objects.modify fun s => s.put bucket key object
      return .ok ()
    else return .error (noStore "s3_put_object")
  | .get bucket key => do
    if b.keepsInMemory then return .ok ((← b.objects.get).get? bucket key)
    else return .error (noStore "s3_get_object")
  | .now => unixTime
  | .entropy count => IO.getRandomBytes (.ofNat count)
  | .count event => b.counters.modify (·.record event)
  | .counters => b.counters.get
  | .note user text => b.log.write ⟨.info, "atlas", text ++ " user=" ++ user⟩

def run (b : Backends) (w : Workflow α) : Async (Except Error α) := w.perform b.answer

end Backends

end KnowledgeGraph.Host
