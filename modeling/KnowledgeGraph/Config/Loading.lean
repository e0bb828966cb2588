import KnowledgeGraph.Config.File
import KnowledgeGraph.Files.Tree

/-!
# Where settings come from

A file that is named, or else one at a usual place, and over it the environment. A named file must
be readable; others are passed over if they are not.
-/

namespace KnowledgeGraph.Config

open Telemetry (Environment)

-- ---------------------------------------------------------------------------
-- The environment.

def text? (env : Environment) (name : String) : Option String := (env name).bind Text.trimmed?

def nat? (env : Environment) (name : String) : Option Nat :=
  (text? env name).bind (readNat? maxNat64)

def origins (s : String) : List String :=
  ((Text.split ',' s).map Text.trim).filter (!·.isEmpty)

/-- The address from its own variable, or else with the port of another. -/
def addressFrom (env : Environment) (a : Network.Address) : Network.Address :=
  match (text? env "ATLAS_LISTEN_ADDR").bind Network.Address.read? with
  | some a => a
  | none => { a with port := ((text? env "SERVER_PORT").bind readPort?).getD a.port }

def Settings.override (s : Settings) (env : Environment) : Settings :=
  { s with
    server := {
      address := addressFrom env s.server.address
      allowedOrigins := ((text? env "ALLOWED_ORIGIN").map origins).getD s.server.allowedOrigins
      maxBodyBytes := (nat? env "ATLAS_MAX_BODY_BYTES").getD s.server.maxBodyBytes }
    database := {
      uri := (text? env "NEO4J_URI").getD s.database.uri
      user := (text? env "NEO4J_USER").getD s.database.user
      password := (text? env "NEO4J_PASSWORD").getD s.database.password
      database := (text? env "NEO4J_DATABASE").getD s.database.database
      maxConnections := (nat? env "NEO4J_MAX_CONNECTIONS").getD s.database.maxConnections }
    tokens := {
      secret := (text? env "JWT_SECRET").orElse fun _ => s.tokens.secret
      lifetimeHours := (nat? env "ATLAS_TOKEN_TTL_HOURS").getD s.tokens.lifetimeHours }
    limits := {
      maxRequests := (nat? env "ATLAS_RATE_LIMIT_MAX_REQUESTS").getD s.limits.maxRequests
      window := ((nat? env "ATLAS_RATE_LIMIT_WINDOW_SECS").map
        (· * Traffic.nanosecondsPerSecond)).getD s.limits.window }
    embedding := { s.embedding with
      endpoint := (text? env "EMBEDDING_ENDPOINT").getD s.embedding.endpoint }
    imaging := { s.imaging with
      endpoint := (text? env "IMAGE_GEN_ENDPOINT").orElse fun _ => s.imaging.endpoint
      apiKey := (text? env "IMAGE_GEN_API_KEY").orElse fun _ => s.imaging.apiKey }
    storage := {
      backend := ((text? env "ATLAS_STORAGE_BACKEND").map Backend.read).getD s.storage.backend
      bucket := (text? env "S3_BUCKET").orElse fun _ => s.storage.bucket
      region := (text? env "AWS_REGION").getD s.storage.region } }

-- ---------------------------------------------------------------------------
-- Files.

abbrev TextOf := String → Except Files.Fault String

def ofFile (files : TextOf) (path : String) : Except Error Settings :=
  match files path with
  | .ok text => ofText text
  | .error fault => .error (.operationFailed "read_config_file" (path ++ ": " ++ fault.text))

def usualPlaces (configFolder home : String) : List String :=
  [Files.join configFolder "atlas/config.toml", Files.join home ".config/atlas/config.toml"]

def firstReadable (files : TextOf) : List String → Settings
  | [] => {}
  | path :: paths =>
    match ofFile files path with
    | .ok s => s
    | .error _ => firstReadable files paths

/-- The settings of a named file or of one at a usual place, with what the environment says. -/
def load (files : TextOf) (path : Option String) (usual : List String) (env : Environment) :
    Except Error Settings := do
  let s ← match path with
    | some path => ofFile files path
    | none => pure (firstReadable files usual)
  return s.override env

end KnowledgeGraph.Config
