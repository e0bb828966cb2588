import KnowledgeGraph.Cli.Running
import KnowledgeGraph.Host.Disk
import KnowledgeGraph.Host.Server

/-!
# The program

Reads the command line and the settings, runs the command and prints what it came to. The files of
a folder that is to be loaded are named on standard input, one path a line.
-/

namespace KnowledgeGraph.Main

open Std.Async Host

def settingsFor (env : Telemetry.Environment) (i : Cli.Invocation) :
    IO (Except Error Config.Settings) := do
  let usual := Config.usualPlaces (configFolder env) (homeFolder env)
  return Config.load (← textsAt (i.config.toList ++ usual)) i.config usual env

def serve (b : Backends) (env : Telemetry.Environment) : Async (Except Error String) := do
  let s := b.settings
  let showsMetrics := Telemetry.metricsEnabled s.telemetry.metrics env
  match Api.Service.ofSettings s s.imaging.endpoint.isSome showsMetrics with
  | .error e => return .error e
  | .ok service =>
    let server : Server := ⟨service, b, ← IO.mkRef ∅⟩
    return (← server.serve s.server.address).map fun _ => ""

def runCommand (b : Backends) (env : Telemetry.Environment) :
    Cli.Command → Async (Except Error String)
  | .serve _ => serve b env
  | .initSchema dimensions => b.run (Cli.initSchema b.settings dimensions)
  | .loadCypher path wiping => do
    b.run (Cli.loadCypher path (← folderOf (← IO.getStdin) path) wiping)
  | .generateKey => b.run Cli.generateKey

def run (env : Telemetry.Environment) (i : Cli.Invocation) : Async Cli.Outcome := do
  match ← settingsFor env i with
  | .error e => return Cli.settingsOutcome e
  | .ok settings =>
    match ← Log.start (Telemetry.logging settings.telemetry.logging i.verbose env) with
    | .error e => return Cli.logOutcome e
    | .ok log =>
      let backends ← Backends.new (i.command.settings settings) log
      return i.command.outcome (← runCommand backends env i.command)

def outcome (args : List String) : Async Cli.Outcome := do
  let env ← environment
  match Cli.read env args with
  | .error refusal => return refusal.outcome
  | .ok .help => return ⟨0, Cli.usage, ""⟩
  | .ok .version => return ⟨0, Cli.programVersion ++ "\n", ""⟩
  | .ok (.run i) => run env i

end KnowledgeGraph.Main

def main (args : List String) : IO UInt32 := do
  let o ← (KnowledgeGraph.Main.outcome args).block
  IO.print o.output
  IO.eprint o.complaint
  return .ofNat o.code
