import KnowledgeGraph.Config.Settings
import KnowledgeGraph.Toml.Reader

/-!
# Settings in a file

A file has a section for each kind of settings. What it does not set stays as it is.
-/

namespace KnowledgeGraph.Config

open Wire

structure ServerSection where
  address : Option String
  allowedOrigins : Option (List String)
  maxBodyBytes : Option UInt64
  deriving DecidableEq

instance : Readable ServerSection where
  fields := .cons "listen_addr" .named (.optional .text) <|
    .cons "allowed_origins" .named (.optional (.list .text)) <|
    .cons "max_body_bytes" .named (.optional .nat64) .nil
  ofMeaning := fun (address, origins, max, _) => ⟨address, origins, max⟩

structure DatabaseSection where
  uri : Option String
  user : Option String
  password : Option String
  database : Option String
  maxConnections : Option UInt64
  deriving DecidableEq

instance : Readable DatabaseSection where
  fields := .cons "uri" .named (.optional .text) <|
    .cons "user" .named (.optional .text) <|
    .cons "password" .named (.optional .text) <|
    .cons "database" .named (.optional .text) <|
    .cons "max_connections" .named (.optional .nat64) .nil
  ofMeaning := fun (uri, user, password, database, max, _) => ⟨uri, user, password, database, max⟩

structure TokenSection where
  secret : Option String
  lifetimeHours : Option UInt64
  deriving DecidableEq

instance : Readable TokenSection where
  fields := .cons "jwt_secret" .named (.optional .text) <|
    .cons "token_ttl_hours" .named (.optional .nat64) .nil
  ofMeaning := fun (secret, hours, _) => ⟨secret, hours⟩

structure LimitSection where
  maxRequests : Option UInt64
  windowSeconds : Option UInt64
  deriving DecidableEq

instance : Readable LimitSection where
  fields := .cons "max_requests" .named (.optional .nat64) <|
    .cons "window_secs" .named (.optional .nat64) .nil
  ofMeaning := fun (max, window, _) => ⟨max, window⟩

structure EmbeddingSection where
  endpoint : Option String
  timeoutSeconds : Option UInt64
  dimensions : Option UInt64
  deriving DecidableEq

instance : Readable EmbeddingSection where
  fields := .cons "endpoint" .named (.optional .text) <|
    .cons "timeout_secs" .named (.optional .nat64) <|
    .cons "dimensions" .named (.optional .nat64) .nil
  ofMeaning := fun (endpoint, timeout, dimensions, _) => ⟨endpoint, timeout, dimensions⟩

structure ImageSection where
  endpoint : Option String
  apiKey : Option String
  width : Option UInt32
  height : Option UInt32
  steps : Option UInt32
  timeoutSeconds : Option UInt64
  deriving DecidableEq

instance : Readable ImageSection where
  fields := .cons "endpoint" .named (.optional .text) <|
    .cons "api_key" .named (.optional .text) <|
    .cons "width" .named (.optional .nat32) <|
    .cons "height" .named (.optional .nat32) <|
    .cons "steps" .named (.optional .nat32) <|
    .cons "timeout_secs" .named (.optional .nat64) .nil
  ofMeaning := fun (endpoint, apiKey, width, height, steps, timeout, _) =>
    ⟨endpoint, apiKey, width, height, steps, timeout⟩

structure StorageSection where
  backend : Option String
  bucket : Option String
  region : Option String
  deriving DecidableEq

instance : Readable StorageSection where
  fields := .cons "backend" .named (.optional .text) <|
    .cons "bucket" .named (.optional .text) <|
    .cons "region" .named (.optional .text) .nil
  ofMeaning := fun (backend, bucket, region, _) => ⟨backend, bucket, region⟩

structure GraphSection where
  vectorIndex : Option String
  vectorLabel : Option String
  similarityThreshold : Option Binary64
  maxDepth : Option UInt32
  deriving DecidableEq

instance : Readable GraphSection where
  fields := .cons "vector_index" .named (.optional .text) <|
    .cons "vector_label" .named (.optional .text) <|
    .cons "similarity_threshold" .named (.optional .float) <|
    .cons "max_depth" .named (.optional .nat32) .nil
  ofMeaning := fun (index, label, threshold, depth, _) => ⟨index, label, threshold, depth⟩

structure File where
  server : Option ServerSection
  database : Option DatabaseSection
  tokens : Option TokenSection
  limits : Option LimitSection
  embedding : Option EmbeddingSection
  imaging : Option ImageSection
  storage : Option StorageSection
  graph : Option GraphSection
  telemetry : Option Telemetry.Settings
  deriving DecidableEq

instance : Readable File where
  fields := .cons "server" .named (.optional (.record (Readable.fields ServerSection))) <|
    .cons "neo4j" .named (.optional (.record (Readable.fields DatabaseSection))) <|
    .cons "auth" .named (.optional (.record (Readable.fields TokenSection))) <|
    .cons "rate_limit" .named (.optional (.record (Readable.fields LimitSection))) <|
    .cons "embedding" .named (.optional (.record (Readable.fields EmbeddingSection))) <|
    .cons "image_generation" .named (.optional (.record (Readable.fields ImageSection))) <|
    .cons "storage" .named (.optional (.record (Readable.fields StorageSection))) <|
    .cons "graph" .named (.optional (.record (Readable.fields GraphSection))) <|
    .cons "observability" .named (.optional (.record (Readable.fields Telemetry.Settings))) .nil
  ofMeaning := fun (server, database, tokens, limits, embedding, imaging, storage, graph,
      telemetry, _) =>
    ⟨server.map Readable.ofMeaning, database.map Readable.ofMeaning,
      tokens.map Readable.ofMeaning, limits.map Readable.ofMeaning,
      embedding.map Readable.ofMeaning, imaging.map Readable.ofMeaning,
      storage.map Readable.ofMeaning, graph.map Readable.ofMeaning,
      telemetry.map Readable.ofMeaning⟩

-- ---------------------------------------------------------------------------
-- Sections over settings.

def ServerSection.onto (f : ServerSection) (s : Server) : Except Error Server := do
  let address ← match f.address with
    | some text => readAddress text
    | none => pure s.address
  return {
    address
    allowedOrigins := f.allowedOrigins.getD s.allowedOrigins
    maxBodyBytes := (f.maxBodyBytes.map UInt64.toNat).getD s.maxBodyBytes }

def DatabaseSection.onto (f : DatabaseSection) (s : Database) : Database where
  uri := f.uri.getD s.uri
  user := f.user.getD s.user
  password := f.password.getD s.password
  database := f.database.getD s.database
  maxConnections := (f.maxConnections.map UInt64.toNat).getD s.maxConnections

def TokenSection.onto (f : TokenSection) (s : Token.Settings) : Token.Settings where
  secret := f.secret
  lifetimeHours := (f.lifetimeHours.map UInt64.toNat).getD s.lifetimeHours

def LimitSection.onto (f : LimitSection) (s : Traffic.Limits) : Traffic.Limits where
  maxRequests := (f.maxRequests.map UInt64.toNat).getD s.maxRequests
  window :=
    (f.windowSeconds.map fun n => n.toNat * Traffic.nanosecondsPerSecond).getD s.window

def EmbeddingSection.onto (f : EmbeddingSection) (s : Embedding.Settings) :
    Embedding.Settings where
  endpoint := f.endpoint.getD s.endpoint
  timeoutSeconds := (f.timeoutSeconds.map UInt64.toNat).getD s.timeoutSeconds
  dimensions := (f.dimensions.map UInt64.toNat).getD s.dimensions

def ImageSection.onto (f : ImageSection) (s : Imaging.Settings) : Imaging.Settings where
  endpoint := f.endpoint
  apiKey := f.apiKey
  width := (f.width.map UInt32.toNat).getD s.width
  height := (f.height.map UInt32.toNat).getD s.height
  steps := (f.steps.map UInt32.toNat).getD s.steps
  timeoutSeconds := (f.timeoutSeconds.map UInt64.toNat).getD s.timeoutSeconds

def StorageSection.onto (f : StorageSection) (s : Storage) : Storage where
  backend := (f.backend.map Backend.read).getD s.backend
  bucket := f.bucket
  region := f.region.getD s.region

def GraphSection.onto (f : GraphSection) (s : Graph.Settings) : Graph.Settings where
  vectorIndex := f.vectorIndex.getD s.vectorIndex
  vectorLabel := f.vectorLabel.getD s.vectorLabel
  similarityThreshold := f.similarityThreshold.getD s.similarityThreshold
  maxDepth := (f.maxDepth.map UInt32.toNat).getD s.maxDepth

/-- A section over the settings of its kind, if the file has it. -/
def overlay (onto : α → σ → σ) (f : Option α) (s : σ) : σ :=
  match f with
  | some f => onto f s
  | none => s

def File.onto (f : File) (s : Settings) : Except Error Settings := do
  let server ← match f.server with
    | some given => given.onto s.server
    | none => pure s.server
  return {
    server
    database := overlay DatabaseSection.onto f.database s.database
    tokens := overlay TokenSection.onto f.tokens s.tokens
    limits := overlay LimitSection.onto f.limits s.limits
    embedding := overlay EmbeddingSection.onto f.embedding s.embedding
    imaging := overlay ImageSection.onto f.imaging s.imaging
    storage := overlay StorageSection.onto f.storage s.storage
    graph := overlay GraphSection.onto f.graph s.graph
    telemetry := f.telemetry.getD s.telemetry }

def ofText (text : String) : Except Error Settings := do
  let some t := Toml.read? text | malformed
  match readAs File (.object (Toml.memberSources t.members)) with
  | .ok f => f.onto {}
  | .error _ => malformed
where
  malformed {α : Type} : Except Error α :=
    .error (.operationFailed "parse_config_file" "malformed text")

end KnowledgeGraph.Config
