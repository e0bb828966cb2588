import KnowledgeGraph.Text.Blank
import KnowledgeGraph.Wire.Shape

/-!
# What is logged and measured

Settings come from a file and are overridden by the environment. What they do not say has a
default.
-/

namespace KnowledgeGraph.Telemetry

open Wire

abbrev Environment := String → Option String

def word (s : String) : String := String.ofList ((Text.trim s).toList.map Char.toLower)

inductive LogFormat where
  | pretty
  | json
  deriving DecidableEq

def LogFormat.read (s : String) : LogFormat := if word s = "json" then .json else .pretty

structure LoggingSettings where
  format : Option String
  filter : Option String
  file : Option String
  deriving DecidableEq

instance : Writable LoggingSettings where
  fields := .cons "format" .named (.optional .text) <|
    .cons "filter" .named (.optional .text) <|
    .cons "file" .named (.optional .text) .nil
  ofMeaning := fun (format, filter, file, _) => ⟨format, filter, file⟩
  toMeaning := fun s => (s.format, s.filter, s.file, ())

structure MetricsSettings where
  enabled : Option Bool
  deriving DecidableEq

instance : Writable MetricsSettings where
  fields := .cons "enabled" .named (.optional .flag) .nil
  ofMeaning := fun (enabled, _) => ⟨enabled⟩
  toMeaning := fun s => (s.enabled, ())

structure Settings where
  logging : Option LoggingSettings
  metrics : Option MetricsSettings
  deriving DecidableEq

instance : Writable Settings where
  fields := .cons "logging" .named (.optional (.record (Readable.fields LoggingSettings))) <|
    .cons "metrics" .named (.optional (.record (Readable.fields MetricsSettings))) .nil
  ofMeaning := fun (logging, metrics, _) =>
    ⟨logging.map Readable.ofMeaning, metrics.map Readable.ofMeaning⟩
  toMeaning := fun s => (s.logging.map Writable.toMeaning, s.metrics.map Writable.toMeaning, ())

-- ---------------------------------------------------------------------------
-- Logging.

structure Logging where
  format : LogFormat
  filter : String
  file : Option String
  deriving DecidableEq

def defaultFilter : String := "atlas=info,tower_http=info"
def verboseFilter : String := "atlas=debug,tower_http=debug"

def given? (env : Environment) (name : String) : Option String :=
  (env name).filter (!Text.isBlankText ·)

def logging (settings : Option LoggingSettings) (verbose : Bool) (env : Environment) : Logging where
  format :=
    (((given? env "ATLAS_LOG_FORMAT").orElse fun _ => settings.bind (·.format)).map
      LogFormat.read).getD .pretty
  filter :=
    if verbose then verboseFilter
    else ((given? env "RUST_LOG").orElse fun _ => settings.bind (·.filter)).getD defaultFilter
  file := (given? env "ATLAS_LOG_FILE").orElse fun _ => settings.bind (·.file)

-- ---------------------------------------------------------------------------
-- Metrics.

def truth? (s : String) : Option Bool :=
  if word s ∈ ["1", "true", "yes", "on"] then some true
  else if word s ∈ ["0", "false", "no", "off"] then some false
  else none

def metricsEnabled (settings : Option MetricsSettings) (env : Environment) : Bool :=
  (((env "ATLAS_METRICS_ENABLED").bind truth?).orElse fun _ =>
    settings.bind (·.enabled)).getD false

end KnowledgeGraph.Telemetry
