import KnowledgeGraph.Config.Loading
import KnowledgeGraph.Proofs.Outcome
import KnowledgeGraph.Proofs.Text.Split

/-!
# Layers of settings

A setting has the value of its environment variable, or else what the file says, or else its
default. The tables below list every setting there is, so that this determines all of them.
-/

namespace KnowledgeGraph.Config

open Telemetry (Environment)

-- ---------------------------------------------------------------------------
-- Tables of settings
-- ---------------------------------------------------------------------------

structure Setting where
  Value : Type
  inFile : File → Option Value
  get : Settings → Value

/-- A setting with a variable of its own, and how a text is read as its value. -/
structure Variable extends Setting where
  name : String
  read : String → Option Value

namespace Variable

def text (name : String) (inFile : File → Option String) (get : Settings → String) :
    Variable where
  Value := String
  inFile := inFile
  get := get
  name := name
  read := some

def optional (name : String) (inFile : File → Option String) (get : Settings → Option String) :
    Variable where
  Value := Option String
  inFile f := (inFile f).map some
  get := get
  name := name
  read text := some (some text)

def number (name : String) (inFile : File → Option UInt64) (get : Settings → Nat) : Variable where
  Value := Nat
  inFile f := (inFile f).map UInt64.toNat
  get := get
  name := name
  read := readNat? maxNat64

end Variable

def overridable : List Variable :=
  [{ Value := List String
     inFile f := f.server.bind (·.allowedOrigins)
     get := (·.server.allowedOrigins)
     name := "ALLOWED_ORIGIN"
     read text := some (origins text) },
   .number "ATLAS_MAX_BODY_BYTES" (·.server.bind (·.maxBodyBytes)) (·.server.maxBodyBytes),
   .text "NEO4J_URI" (·.database.bind (·.uri)) (·.database.uri),
   .text "NEO4J_USER" (·.database.bind (·.user)) (·.database.user),
   .text "NEO4J_PASSWORD" (·.database.bind (·.password)) (·.database.password),
   .text "NEO4J_DATABASE" (·.database.bind (·.database)) (·.database.database),
   .number "NEO4J_MAX_CONNECTIONS" (·.database.bind (·.maxConnections))
     (·.database.maxConnections),
   .optional "JWT_SECRET" (·.tokens.bind (·.secret)) (·.tokens.secret),
   .number "ATLAS_TOKEN_TTL_HOURS" (·.tokens.bind (·.lifetimeHours)) (·.tokens.lifetimeHours),
   .number "ATLAS_RATE_LIMIT_MAX_REQUESTS" (·.limits.bind (·.maxRequests)) (·.limits.maxRequests),
   { Value := Nat
     inFile f := (f.limits.bind (·.windowSeconds)).map (·.toNat * Traffic.nanosecondsPerSecond)
     get := (·.limits.window)
     name := "ATLAS_RATE_LIMIT_WINDOW_SECS"
     read text := (readNat? maxNat64 text).map (· * Traffic.nanosecondsPerSecond) },
   .text "EMBEDDING_ENDPOINT" (·.embedding.bind (·.endpoint)) (·.embedding.endpoint),
   .optional "IMAGE_GEN_ENDPOINT" (·.imaging.bind (·.endpoint)) (·.imaging.endpoint),
   .optional "IMAGE_GEN_API_KEY" (·.imaging.bind (·.apiKey)) (·.imaging.apiKey),
   { Value := Backend
     inFile f := (f.storage.bind (·.backend)).map Backend.read
     get := (·.storage.backend)
     name := "ATLAS_STORAGE_BACKEND"
     read text := some (Backend.read text) },
   .optional "S3_BUCKET" (·.storage.bind (·.bucket)) (·.storage.bucket),
   .text "AWS_REGION" (·.storage.bind (·.region)) (·.storage.region)]

namespace Setting

def number32 (inFile : File → Option UInt32) (get : Settings → Nat) : Setting where
  Value := Nat
  inFile f := (inFile f).map UInt32.toNat
  get := get

def number64 (inFile : File → Option UInt64) (get : Settings → Nat) : Setting where
  Value := Nat
  inFile f := (inFile f).map UInt64.toNat
  get := get

end Setting

def fixed : List Setting :=
  [.number64 (·.embedding.bind (·.timeoutSeconds)) (·.embedding.timeoutSeconds),
   .number64 (·.embedding.bind (·.dimensions)) (·.embedding.dimensions),
   .number32 (·.imaging.bind (·.width)) (·.imaging.width),
   .number32 (·.imaging.bind (·.height)) (·.imaging.height),
   .number32 (·.imaging.bind (·.steps)) (·.imaging.steps),
   .number64 (·.imaging.bind (·.timeoutSeconds)) (·.imaging.timeoutSeconds),
   ⟨String, (·.graph.bind (·.vectorIndex)), (·.graph.vectorIndex)⟩,
   ⟨String, (·.graph.bind (·.vectorLabel)), (·.graph.vectorLabel)⟩,
   ⟨Binary64, (·.graph.bind (·.similarityThreshold)), (·.graph.similarityThreshold)⟩,
   .number32 (·.graph.bind (·.maxDepth)) (·.graph.maxDepth),
   ⟨Telemetry.Settings, (·.telemetry), (·.telemetry)⟩]

def File.listenText? (f : File) : Option String := f.server.bind (·.address)

/-- Where a file tells to listen, or else the default. -/
def File.address (f : File) : Network.Address :=
  match f.listenText?.map readAddress with
  | some (.ok a) => a
  | _ => ({} : Settings).server.address

-- ---------------------------------------------------------------------------
-- What the layers say
-- ---------------------------------------------------------------------------

/-- A value is that of a variable whose trimmed text is not empty and can be read, or else the one
below it. -/
inductive Layered (env : Environment) (name : String) (read : String → Option α) (below : α) :
    α → Prop where
  | given : env name = some raw → Text.trim raw ≠ "" → read (Text.trim raw) = some x →
      Layered env name read below x
  | below : (∀ raw x, env name = some raw → Text.trim raw ≠ "" → read (Text.trim raw) ≠ some x) →
      Layered env name read below below

/-- The settings that the defaults, a file and the environment make together. The address has two
variables; the one for its port only counts if the other says nothing. -/
structure Layers (f : File) (env : Environment) (s : Settings) : Prop where
  overridable : ∀ v ∈ overridable,
    Layered env v.name v.read ((v.inFile f).getD (v.get {})) (v.get s)
  address : ∃ port, Layered env "SERVER_PORT" readPort? f.address.port port ∧
    Layered env "ATLAS_LISTEN_ADDR" Network.Address.read? { f.address with port } s.server.address
  fixed : ∀ k ∈ fixed, k.get s = (k.inFile f).getD (k.get {})

def IsFile (text : String) (f : File) : Prop :=
  ∃ t, Toml.read? text = some t ∧
    Wire.readAs File (.object (Toml.memberSources t.members)) = .ok f

section
variable {env : Environment} {name : String} {α : Type} {read : String → Option α} {below x : α}

theorem text?_eq_some_iff :
    text? env name = some text ↔
      ∃ raw, env name = some raw ∧ Text.trim raw ≠ "" ∧ text = Text.trim raw := by
  simp only [text?, Option.bind_eq_some_iff, Text.trimmed?_eq_some_iff]
  constructor
  · rintro ⟨raw, hraw, rfl, hne⟩
    exact ⟨raw, hraw, hne, rfl⟩
  · rintro ⟨raw, hraw, hne, rfl⟩
    exact ⟨raw, hraw, rfl, hne⟩

theorem layered_iff :
    Layered env name read below x ↔ x = ((text? env name).bind read).getD below := by
  constructor
  · rintro (⟨hraw, hne, hread⟩ | hnone)
    · rw [text?_eq_some_iff.mpr ⟨_, hraw, hne, rfl⟩, Option.bind_some, hread]
      rfl
    · cases hgiven : (text? env name).bind read with
      | none => rfl
      | some y =>
        obtain ⟨text, htext, hread⟩ := Option.bind_eq_some_iff.mp hgiven
        obtain ⟨raw, hraw, hne, rfl⟩ := text?_eq_some_iff.mp htext
        exact absurd hread (hnone raw y hraw hne)
  · rintro rfl
    cases hgiven : (text? env name).bind read with
    | none =>
      refine .below fun raw y hraw hne hread => ?_
      rw [text?_eq_some_iff.mpr ⟨raw, hraw, hne, rfl⟩, Option.bind_some, hread] at hgiven
      cases hgiven
    | some y =>
      obtain ⟨text, htext, hread⟩ := Option.bind_eq_some_iff.mp hgiven
      obtain ⟨raw, hraw, hne, rfl⟩ := text?_eq_some_iff.mp htext
      exact .given hraw hne hread

end

/-- Origins are listed with commas; blank ones are dropped. -/
theorem origins_eq_iff {text : String} {listed : List String} :
    origins text = listed ↔
      ∃ parts, parts ≠ [] ∧ (∀ part ∈ parts, ',' ∉ part.toList) ∧ ",".intercalate parts = text ∧
        listed = (parts.map Text.trim).filter (· ≠ "") :=
  eq_comm.trans Text.eq_listed_iff

-- ---------------------------------------------------------------------------
-- The environment over settings
-- ---------------------------------------------------------------------------

section
variable (s : Settings) (env : Environment)

theorem get_override : ∀ v ∈ overridable,
    v.get (s.override env) = ((text? env v.name).bind v.read).getD (v.get s) := by
  have hread {α β : Type} (o : Option α) (read : α → β) (b : β) :
      (o.bind fun a => some (read a)).getD b = (o.map read).getD b := by cases o <;> rfl
  have hor {α : Type} (o o' : Option α) : (o.map some).getD o' = o.or o' := by cases o <;> rfl
  have hmap {α β γ : Type} (o : Option α) (read : α → Option β) (f : β → γ) :
      (o.bind read).map f = o.bind fun a => (read a).map f := by cases o <;> rfl
  simp [overridable, Variable.text, Variable.optional, Variable.number, Settings.override, nat?,
    hread, hor, hmap]

theorem fixed_override : ∀ k ∈ fixed, k.get (s.override env) = k.get s := by
  simp [fixed, Setting.number32, Setting.number64, Settings.override]

theorem address_override : (s.override env).server.address =
    ((text? env "ATLAS_LISTEN_ADDR").bind Network.Address.read?).getD
      { s.server.address with
        port := ((text? env "SERVER_PORT").bind readPort?).getD s.server.address.port } := by
  show addressFrom env _ = _
  unfold addressFrom
  cases (text? env "ATLAS_LISTEN_ADDR").bind Network.Address.read? <;> rfl

end

-- ---------------------------------------------------------------------------
-- A file over the defaults
-- ---------------------------------------------------------------------------

section
variable {f : File}

theorem exists_server (h : ∀ text, f.listenText? = some text → ∃ a, readAddress text = .ok a) :
    ∃ server : Server, server.address = f.address ∧
      server.allowedOrigins =
        (f.server.bind (·.allowedOrigins)).getD ({} : Server).allowedOrigins ∧
      server.maxBodyBytes =
        ((f.server.bind (·.maxBodyBytes)).map UInt64.toNat).getD ({} : Server).maxBodyBytes ∧
      f.onto {} = .ok {
        server
        database := overlay DatabaseSection.onto f.database {}
        tokens := overlay TokenSection.onto f.tokens ({} : Settings).tokens
        limits := overlay LimitSection.onto f.limits ({} : Settings).limits
        embedding := overlay EmbeddingSection.onto f.embedding {}
        imaging := overlay ImageSection.onto f.imaging {}
        storage := overlay StorageSection.onto f.storage {}
        graph := overlay GraphSection.onto f.graph {}
        telemetry := f.telemetry.getD ({} : Settings).telemetry } := by
  unfold File.address File.listenText? File.onto at *
  cases hf : f.server with
  | none => exact ⟨{}, rfl, rfl, rfl, rfl⟩
  | some given =>
    cases hgiven : given.address with
    | none =>
      refine ⟨_, ?_, rfl, rfl, by simp only [ServerSection.onto, hgiven]; rfl⟩
      simp [hgiven]
    | some text =>
      obtain ⟨a, ha⟩ := h text (by rw [hf]; exact hgiven)
      refine ⟨_, ?_, rfl, rfl, by simp only [ServerSection.onto, hgiven, ha]; rfl⟩
      simp [hgiven, ha]

theorem exists_onto (h : ∀ text, f.listenText? = some text → ∃ a, readAddress text = .ok a) :
    ∃ s, f.onto {} = .ok s ∧ s.server.address = f.address ∧
      (∀ v ∈ overridable, v.get s = (v.inFile f).getD (v.get {})) ∧
      ∀ k ∈ fixed, k.get s = (k.inFile f).getD (k.get {}) := by
  obtain ⟨server, haddress, horigins, hmax, honto⟩ := exists_server h
  refine ⟨_, honto, haddress, ?_, ?_⟩
  all_goals
    obtain ⟨_, database, tokens, limits, embedding, imaging, storage, graph, telemetry⟩ := f
    clear h honto haddress
  -- A setting hangs on one section only, which is there or not.
  · simp only [overridable, Variable.text, Variable.number, Variable.optional, List.forall_mem_cons,
      List.not_mem_nil, false_implies, implies_true, and_true]
    refine ⟨horigins, hmax, ?_, ?_, ?_, ?_, ?_, ?_, ?_, ?_, ?_, ?_, ?_, ?_, ?_, ?_, ?_⟩
    iterate 5 exact by cases database <;> rfl
    · rcases tokens with _ | ⟨_ | _, _⟩ <;> rfl
    · cases tokens <;> rfl
    iterate 2 exact by cases limits <;> rfl
    · cases embedding <;> rfl
    · rcases imaging with _ | ⟨_ | _, _⟩ <;> rfl
    · rcases imaging with _ | ⟨_, _ | _, _⟩ <;> rfl
    · cases storage <;> rfl
    · rcases storage with _ | ⟨_, _ | _, _⟩ <;> rfl
    · cases storage <;> rfl
  · simp only [fixed, Setting.number32, Setting.number64, List.forall_mem_cons,
      List.not_mem_nil, false_implies, implies_true, and_true]
    refine ⟨?_, ?_, ?_, ?_, ?_, ?_, ?_, ?_, ?_, ?_⟩
    iterate 2 exact by cases embedding <;> rfl
    iterate 4 exact by cases imaging <;> rfl
    iterate 4 exact by cases graph <;> rfl

end

-- ---------------------------------------------------------------------------
-- Settings are what the tables say
-- ---------------------------------------------------------------------------

theorem Settings.ext_of_tables {s s' : Settings} (hv : ∀ v ∈ overridable, v.get s = v.get s')
    (ha : s.server.address = s'.server.address) (hk : ∀ k ∈ fixed, k.get s = k.get s') :
    s = s' := by
  simp only [overridable, Variable.text, Variable.optional, Variable.number,
    List.forall_mem_cons] at hv
  simp only [fixed, Setting.number32, Setting.number64, List.forall_mem_cons] at hk
  -- With the address the two tables name every field there is.
  obtain ⟨⟨_, _, _⟩, ⟨_, _, _, _, _⟩, ⟨_, _⟩, ⟨_, _⟩, ⟨_, _, _⟩, ⟨_, _, _, _, _, _⟩, ⟨_, _, _⟩,
    ⟨_, _, _, _⟩, _⟩ := s
  obtain ⟨⟨_, _, _⟩, ⟨_, _, _, _, _⟩, ⟨_, _⟩, ⟨_, _⟩, ⟨_, _, _⟩, ⟨_, _, _, _, _, _⟩, ⟨_, _, _⟩,
    ⟨_, _, _, _⟩, _⟩ := s'
  simp_all

theorem override_override (s : Settings) (env : Environment) :
    (s.override env).override env = s.override env := by
  have hgetD {α : Type} (o : Option α) (a : α) : o.getD (o.getD a) = o.getD a := by
    cases o <;> rfl
  refine Settings.ext_of_tables (fun v hv => ?_) ?_ fun k hk => fixed_override _ _ k hk
  · rw [get_override _ _ v hv, get_override _ _ v hv, hgetD]
  · rw [address_override, address_override]
    cases (text? env "ATLAS_LISTEN_ADDR").bind Network.Address.read? with
    | none => simp [hgetD]
    | some a => rfl

theorem text?_congr {env other : Environment} {name : String} (h : other name = env name) :
    text? other name = text? env name := by
  rw [text?, text?, h]

theorem layers_onto_iff {f : File} {s s' : Settings} {env : Environment}
    (haddress : s.server.address = f.address)
    (hv : ∀ v ∈ overridable, v.get s = (v.inFile f).getD (v.get {}))
    (hk : ∀ k ∈ fixed, k.get s = (k.inFile f).getD (k.get {})) :
    Layers f env s' ↔ s' = s.override env := by
  constructor
  · intro hs
    refine Settings.ext_of_tables (fun v hmem => ?_) ?_ fun k hmem => ?_
    · rw [layered_iff.mp (hs.overridable v hmem), get_override s env v hmem, hv v hmem]
    · obtain ⟨port, hport, hwhole⟩ := hs.address
      rw [layered_iff.mp hwhole, layered_iff.mp hport, address_override, haddress]
    · rw [hs.fixed k hmem, fixed_override s env k hmem, hk k hmem]
  · rintro rfl
    refine ⟨fun v hmem => ?_, ⟨_, layered_iff.mpr rfl, layered_iff.mpr ?_⟩, fun k hmem => ?_⟩
    · exact layered_iff.mpr (by rw [get_override s env v hmem, hv v hmem])
    · rw [address_override, haddress]
    · rw [fixed_override s env k hmem, hk k hmem]

theorem ofText_eq {text : String} {f : File} (h : IsFile text f) : ofText text = f.onto {} := by
  obtain ⟨t, ht, hf⟩ := h
  simp [ofText, ht, hf]

-- ---------------------------------------------------------------------------
-- Loading a file
-- ---------------------------------------------------------------------------

/-- A file with a valid address makes settings, and they are what the layers say: each variable
counts for its own setting and no other, and reading them again changes nothing. -/
theorem loaded_settings_are_layered {f : File}
    (h : ∀ text, f.listenText? = some text → ∃ a, readAddress text = .ok a) (env : Environment) :
    ∃ s, f.onto {} = .ok s ∧
      (∀ files path text usual, files path = .ok text → IsFile text f →
        load files (some path) usual env = .ok (s.override env) ∧
          load files none (path :: usual) env = .ok (s.override env)) ∧
      (∀ s', Layers f env s' ↔ s' = s.override env) ∧
      (∀ other : Environment,
        (∀ v ∈ overridable, other v.name = env v.name →
          v.get (s.override other) = v.get (s.override env)) ∧
        (other "ATLAS_LISTEN_ADDR" = env "ATLAS_LISTEN_ADDR" →
          other "SERVER_PORT" = env "SERVER_PORT" →
            (s.override other).server.address = (s.override env).server.address) ∧
        ∀ k ∈ fixed, k.get (s.override other) = k.get (s.override env)) ∧
      (s.override env).override env = s.override env := by
  obtain ⟨s, honto, haddress, hv, hk⟩ := exists_onto h
  refine ⟨s, honto, ?_, fun s' => layers_onto_iff haddress hv hk, fun other => ⟨?_, ?_, ?_⟩,
    override_override s env⟩
  · intro files path text usual hfile htext
    have hof : ofFile files path = .ok s := by rw [ofFile, hfile, ← honto, ← ofText_eq htext]
    constructor
    · simp only [load, hof]
      rfl
    · simp only [load, firstReadable, hof]
      rfl
  · intro v hmem hname
    rw [get_override _ _ v hmem, get_override _ _ v hmem, text?_congr hname]
  · intro hwhole hport
    rw [address_override, address_override, text?_congr hwhole, text?_congr hport]
  · intro k hmem
    rw [fixed_override _ _ k hmem, fixed_override _ _ k hmem]

def localText : String :=
  "[server]\nlisten_addr = \"127.0.0.1:9000\"\n[auth]\njwt_secret = \"filed\"\n"

def localFile : File where
  server := some ⟨some "127.0.0.1:9000", none, none⟩
  database := none
  tokens := some ⟨some "filed", none⟩
  limits := none
  embedding := none
  imaging := none
  storage := none
  graph := none
  telemetry := none

theorem isFile_localText : IsFile localText localFile := by
  have hread : (Toml.read? localText).map (fun t =>
      Wire.readAs File (.object (Toml.memberSources t.members))) = some (.ok localFile) := by
    decide +kernel
  exact Option.map_eq_some_iff.mp hread

def sparse : Environment
  | "SERVER_PORT" => some " 8080 "
  | "ALLOWED_ORIGIN" => some " http://a.example, ,http://b.example "
  | "JWT_SECRET" => some "  "
  | "ATLAS_TOKEN_TTL_HOURS" => some "soon"
  | _ => none

theorem localFile_is_layered :
    (∀ text, localFile.listenText? = some text → ∃ a, readAddress text = .ok a) ∧
    ∃ s, load (fun _ => .ok localText) (some "config.toml") [] sparse = .ok s ∧
      Layers localFile sparse s ∧ s.override sparse = s ∧
      s.server.address = ⟨.v4 [127, 0, 0, 1], 8080⟩ ∧
      s.server.allowedOrigins = ["http://a.example", "http://b.example"] ∧
      s.tokens = ⟨some "filed", 24⟩ := by
  have h : ∀ text, localFile.listenText? = some text → ∃ a, readAddress text = .ok a := by
    rintro text ⟨⟩
    exact ⟨_, rfl⟩
  obtain ⟨s, honto, hload, hlayers, -, htwice⟩ := loaded_settings_are_layered h sparse
  refine ⟨h, _, (hload _ _ _ [] rfl isFile_localText).1, (hlayers _).mpr rfl, htwice, ?_⟩
  obtain rfl : s = _ := (Except.ok.inj honto).symm
  exact ⟨rfl, rfl, rfl⟩

end KnowledgeGraph.Config
