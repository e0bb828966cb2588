import KnowledgeGraph.Proofs.Api.Admission
import KnowledgeGraph.Proofs.Domain.Faults
import KnowledgeGraph.Proofs.Workflow.Refusals
import KnowledgeGraph.Schema.Loading

/-!
# Operations refuse before they write

Every operation on the graph is careful. Where an operation looks before it writes, what it looks
with only reads; and the checks of a request, those of its labels and property names included,
come before the first statement that may write.
-/

namespace KnowledgeGraph

open Workflow

-- ---------------------------------------------------------------------------
-- Statements that look first
-- ---------------------------------------------------------------------------

theorem Person.not_writes_holders (username phone : String) :
    ¬ (holders username phone).Writes := by
  show ¬ (holders "" "").Writes
  decide +kernel

theorem Person.not_writes_passwordOf (username : String) : ¬ (passwordOf username).Writes := by
  show ¬ (passwordOf "").Writes
  decide +kernel

theorem Node.not_writes_similarToEmbedding (index : String) (embedding : List Binary64)
    (limit : Nat) : ¬ (similarToEmbedding index embedding limit).Writes := by
  show ¬ (similarToEmbedding "" [] 0).Writes
  decide +kernel

-- ---------------------------------------------------------------------------
-- One statement after the checks
-- ---------------------------------------------------------------------------

theorem careful_query_of_checks {checked : Except Error Graph.Statement}
    {f : List Graph.Record → Workflow α}
    (hf : ∀ rows, (f rows).FailsOnly fun e => ¬ e.Refuses) :
    (do let rows ← query (← checked); f rows : Workflow α).Careful :=
  careful_bind_of_only (only_lift _) fun st => careful_bind_of_failsOnly (careful_query st) hf

theorem failsOnly_requireRows (rows : List Graph.Record) (what : String) :
    (liftM (requireRows rows what) : Workflow _).FailsOnly fun e => ¬ e.Refuses := by
  refine failsOnly_lift fun e he => ?_
  unfold requireRows at he
  split at he <;> cases he
  exact Error.not_refuses_notFound _

-- ---------------------------------------------------------------------------
-- People
-- ---------------------------------------------------------------------------

section
variable (scheme : Password.Scheme) (tokens : Token.Authority)

theorem failsOnly_issueToken (username : String) :
    (Person.issueToken tokens username).FailsOnly kind :=
  .ask fun _ => .ok _

theorem careful_signUp (request : Person.SignUp) :
    (Person.signUp scheme tokens request).Careful := by
  refine careful_bind_of_only (only_lift _) fun _ => ?_
  refine careful_bind_of_only (only_query (Person.not_writes_holders _ _)) fun taken => ?_
  have hwrite : (do
      let salt ← Workflow.entropy scheme.saltSize
      let stored ← scheme.hash salt.toList request.password
      discard <| Workflow.query (Person.create (Text.trim request.username) stored
        (Text.trim request.phone))
      Workflow.count .accountCreated
      Person.issueToken tokens (Text.trim request.username)).Careful := by
    refine careful_bind_of_only (only_entropy id) fun salt => ?_
    refine careful_bind_of_only (only_lift _) fun stored => ?_
    refine careful_bind_of_failsOnly ?_ fun _ => ?_
    · exact careful_bind_of_failsOnly (careful_query _) fun _ => failsOnly_pure _
    · exact failsOnly_bind (failsOnly_count _) fun _ => failsOnly_issueToken tokens _
  split
  · exact hwrite
  · exact careful_bind_of_only (only_refuse _) fun _ => hwrite

theorem careful_login (request : Person.Login) : (Person.login scheme tokens request).Careful := by
  refine careful_bind_of_only (only_lift _) fun _ => ?_
  refine careful_bind_of_only (only_query (Person.not_writes_passwordOf _)) fun rows => ?_
  refine careful_bind_of_only (only_lift _) fun stored => ?_
  refine careful_bind_of_only (only_lift _) fun isSame => ?_
  have hissue : (Person.issueToken tokens (Text.trim request.username)).Careful :=
    careful_of_failsOnly (failsOnly_issueToken tokens _)
  split
  · exact hissue
  · exact careful_bind_of_only (only_refuse _) fun _ => hissue

theorem careful_readProfile (username : String) : (Person.readProfile username).Careful := by
  refine careful_bind_of_only (only_lift _) fun name => ?_
  refine careful_bind_of_failsOnly (careful_query _) fun rows => ?_
  exact failsOnly_bind (failsOnly_requireRows ..) fun _ => failsOnly_pure _

end

-- ---------------------------------------------------------------------------
-- Nodes
-- ---------------------------------------------------------------------------

section
variable (settings : Graph.Settings)

theorem careful_embed (text : String) : (Node.embed text).Careful := by
  unfold Node.embed
  split
  · exact careful_refuse _
  · exact careful_of_failsOnly (failsOnly_embed text).not_refuses

theorem careful_find (q : Node.Query) : (Node.find settings q).Careful :=
  careful_query_of_checks fun _ => failsOnly_pure _

theorem careful_findNearest (q : Node.TermQuery) : (Node.findNearest settings q).Careful := by
  refine careful_bind_of_only (only_lift _) fun term => ?_
  refine careful_bind_of_only (only_lift _) fun depth => ?_
  refine careful_bind_of_only (only_embed id) fun embedding => ?_
  exact careful_bind_of_failsOnly (careful_query _) fun _ => failsOnly_pure _

theorem careful_findSimilar (q : Node.SimilarityQuery) : (Node.findSimilar settings q).Careful :=
  careful_query_of_checks fun _ => failsOnly_pure _

theorem careful_findByName (q : Node.SearchQuery) : (Node.findByName q).Careful :=
  careful_query_of_checks fun _ => failsOnly_pure _

theorem only_illustrate (bucket name subject : String) :
    (Node.illustrate bucket name subject).Only fun c => ¬ c.Writes := by
  refine only_bind (only_draw id) fun bytes => ?_
  refine only_bind (only_now id) fun seconds => ?_
  exact only_bind (only_put id) fun _ => only_pure _

theorem careful_addNode (bucket : Option String) (c : Node.Creation) :
    (Node.add settings bucket c).Careful := by
  unfold Node.add
  split
  · exact careful_refuse _
  split
  · exact careful_refuse _
  rename_i name hname
  refine careful_bind_of_only (only_embed id) fun embedding => ?_
  refine careful_bind_of_only (only_query (Node.not_writes_similarToEmbedding _ _ _))
    fun nearest => ?_
  split
  · exact careful_bind_of_only (only_count id) fun _ => careful_refuse _
  -- The labels are checked after the picture is drawn, but before the node is written.
  have hwrite (properties : Json.Members) : (do
      let properties :=
        properties.insert Node.embeddingProperty (.arr (embedding.map .float))
      let rows ← Workflow.query (← Node.create c.labels (Node.flatten properties))
      Workflow.count .nodeCreated
      return rows : Workflow _).Careful :=
    careful_query_of_checks fun rows => failsOnly_bind (failsOnly_count _) fun _ => failsOnly_pure _
  split
  · refine careful_bind_of_only (only_illustrate ..) fun key => ?_
    exact careful_bind_of_only (only_pure _) hwrite
  · exact careful_bind_of_only (only_pure _) hwrite

theorem careful_changeNode (u : Node.Update) : (Node.change u).Careful :=
  careful_query_of_checks fun _ => failsOnly_bind (failsOnly_requireRows ..) fun _ =>
    failsOnly_pure _

end

-- ---------------------------------------------------------------------------
-- Relationships
-- ---------------------------------------------------------------------------

theorem careful_addRelationship (c : Relationship.Creation) : (Relationship.add c).Careful :=
  careful_query_of_checks fun _ => failsOnly_requireRows ..

theorem careful_changeRelationship (u : Relationship.Update) : (Relationship.change u).Careful :=
  careful_query_of_checks fun _ => failsOnly_requireRows ..

theorem careful_removeRelationship (d : Relationship.Deletion) :
    (Relationship.remove d).Careful := by
  refine careful_bind_of_only (only_lift _) fun id => ?_
  refine careful_bind_of_failsOnly (careful_query _) fun rows => ?_
  dsimp only
  split
  · exact .error (Error.not_refuses_notFound _)
  · exact failsOnly_pure _

-- ---------------------------------------------------------------------------
-- Domains
-- ---------------------------------------------------------------------------

theorem only_holder? (name : String) : (Domain.holder? name).Only fun c => ¬ c.Writes :=
  only_bind (only_query (Domain.not_writes_idByName name)) fun _ => only_pure _

theorem careful_readDomain (name : String) : (Domain.read name).Careful := by
  refine careful_bind_of_only (only_lift _) fun name => ?_
  refine careful_bind_of_failsOnly (careful_query _) fun rows => ?_
  split
  · exact failsOnly_pure _
  · exact .error (Error.not_refuses_notFound _)

theorem careful_checkName (name : String) : (Domain.checkName name).Careful := by
  refine careful_bind_of_only (only_lift _) fun name => ?_
  exact careful_bind_of_only (only_holder? name) fun _ => careful_pure _

theorem careful_addDomain (c : Domain.Creation) : (Domain.add c).Careful := by
  refine careful_bind_of_only (only_lift _) fun name => ?_
  refine careful_bind_of_only (only_holder? name) fun holder => ?_
  split
  · exact careful_refuse _
  refine careful_bind_of_failsOnly (careful_query _) fun rows => ?_
  refine failsOnly_bind (Domain.failsOnly_returnedId ..).not_refuses fun domainId => ?_
  refine failsOnly_bind (Domain.failsOnly_writeLevels ..).not_refuses fun made => ?_
  exact failsOnly_bind (failsOnly_count _) fun _ => failsOnly_pure _

theorem careful_changeDomain (u : Domain.Update) : (Domain.change u).Careful := by
  refine careful_bind_of_only (only_lift _) fun domainId => ?_
  refine careful_bind_of_only (only_lift _) fun name => ?_
  refine careful_bind_of_only (only_query (Domain.not_writes_nameById domainId)) fun found => ?_
  split
  · exact careful_refuse _
  refine careful_of_failsOnly ?_
  refine failsOnly_bind (Domain.failsOnly_dropProgress _).not_refuses fun affected => ?_
  refine failsOnly_bind (failsOnly_query _).not_refuses fun _ => ?_
  refine failsOnly_bind (failsOnly_query _).not_refuses fun _ => ?_
  refine failsOnly_bind (Domain.failsOnly_writeLevels ..).not_refuses fun made => ?_
  exact failsOnly_bind (failsOnly_count _) fun _ => failsOnly_pure _

-- ---------------------------------------------------------------------------
-- Setting up
-- ---------------------------------------------------------------------------

theorem careful_init (settings : Graph.Settings) (dimensions : Nat) :
    (Schema.init settings dimensions).Careful := by
  have hcommands : (do
      let index ← Schema.createIndex settings dimensions
      Workflow.command index
      Workflow.command Schema.createConstraint : Workflow Unit).Careful := by
    refine careful_bind_of_only (only_lift _) fun index => ?_
    refine careful_of_failsOnly (failsOnly_bind (failsOnly_command _).not_refuses fun _ => ?_)
    exact (failsOnly_command _).not_refuses
  unfold Schema.init
  split
  · exact careful_bind_of_only (only_refuse _) fun _ => hcommands
  · exact hcommands

theorem failsOnly_runStatements (statements : List String) :
    (Schema.runStatements statements).FailsOnly kind := by
  induction statements with
  | nil => exact failsOnly_pure _
  | cons st statements ih =>
    refine failsOnly_bind (failsOnly_attempt _) fun outcome => ?_
    cases outcome with
    | error e => exact failsOnly_pure _
    | ok _ => exact failsOnly_bind ih fun _ => failsOnly_pure _

theorem failsOnly_runScripts (scripts : List Schema.Script) (sum : Schema.Summary) :
    (Schema.runScripts scripts sum).FailsOnly Error.IsOperational := by
  induction scripts generalizing sum with
  | nil => exact failsOnly_pure _
  | cons script scripts ih =>
    refine failsOnly_bind (failsOnly_lift fun e he => ?_) fun text => ?_
    · unfold Schema.scriptText at he
      split at he <;> cases he
      exact ⟨_, _, rfl⟩
    · exact failsOnly_bind (failsOnly_runStatements _) fun _ => ih _

theorem careful_load (path : String) (found : Except Files.Fault Files.Folder) (wiping : Bool) :
    (Schema.load path found wiping).Careful := by
  refine careful_bind_of_only (only_lift _) fun scripts => careful_of_failsOnly ?_
  have hscripts := (failsOnly_runScripts scripts ⟨0, 0, 0⟩).not_refuses
  dsimp only
  split
  · exact failsOnly_bind (failsOnly_command _).not_refuses fun _ => hscripts
  · exact hscripts

-- ---------------------------------------------------------------------------
-- All of them
-- ---------------------------------------------------------------------------

namespace Api

/-- What can be asked of a service about its graph, by the type of the result. -/
inductive Operation : Type → Type where
  | signUp (request : Person.SignUp) : Operation Person.Token
  | login (request : Person.Login) : Operation Person.Token
  | profile (username : String) : Operation (List Graph.Record)
  | embed (text : String) : Operation (List Binary64)
  | find (q : Node.Query) : Operation (List Graph.Record)
  | findNearest (q : Node.TermQuery) : Operation (List Graph.Record)
  | findSimilar (q : Node.SimilarityQuery) : Operation (List Node.Similar)
  | findByName (q : Node.SearchQuery) : Operation Node.SearchResult
  | addNode (c : Node.Creation) : Operation (List Graph.Record)
  | changeNode (u : Node.Update) : Operation (List Graph.Record)
  | addRelationship (c : Relationship.Creation) : Operation (List Graph.Record)
  | changeRelationship (u : Relationship.Update) : Operation (List Graph.Record)
  | removeRelationship (d : Relationship.Deletion) : Operation Relationship.Deleted
  | readDomain (name : String) : Operation Json
  | checkName (name : String) : Operation Domain.NameAvailability
  | addDomain (c : Domain.Creation) : Operation Domain.Written
  | changeDomain (u : Domain.Update) : Operation Domain.Written
  | init (dimensions : Nat) : Operation Unit
  | load (path : String) (found : Except Files.Fault Files.Folder) (wiping : Bool) :
      Operation Schema.Summary

def Operation.workflow (s : Service) : Operation α → Workflow α
  | .signUp request => Person.signUp s.passwords s.tokens request
  | .login request => Person.login s.passwords s.tokens request
  | .profile username => Person.readProfile username
  | .embed text => Node.embed text
  | .find q => Node.find s.graph q
  | .findNearest q => Node.findNearest s.graph q
  | .findSimilar q => Node.findSimilar s.graph q
  | .findByName q => Node.findByName q
  | .addNode c => Node.add s.graph s.imageBucket c
  | .changeNode u => Node.change u
  | .addRelationship c => Relationship.add c
  | .changeRelationship u => Relationship.change u
  | .removeRelationship d => Relationship.remove d
  | .readDomain name => Domain.read name
  | .checkName name => Domain.checkName name
  | .addDomain c => Domain.add c
  | .changeDomain u => Domain.change u
  | .init dimensions => Schema.init s.graph dimensions
  | .load path found wiping => Schema.load path found wiping

theorem Operation.careful_workflow (s : Service) (o : Operation α) : (o.workflow s).Careful := by
  cases o with
  | signUp request => exact careful_signUp ..
  | login request => exact careful_login ..
  | profile username => exact careful_readProfile username
  | embed text => exact careful_embed text
  | find q => exact careful_find ..
  | findNearest q => exact careful_findNearest ..
  | findSimilar q => exact careful_findSimilar ..
  | findByName q => exact careful_findByName q
  | addNode c => exact careful_addNode ..
  | changeNode u => exact careful_changeNode u
  | addRelationship c => exact careful_addRelationship c
  | changeRelationship u => exact careful_changeRelationship u
  | removeRelationship d => exact careful_removeRelationship d
  | readDomain name => exact careful_readDomain name
  | checkName name => exact careful_checkName name
  | addDomain c => exact careful_addDomain c
  | changeDomain u => exact careful_changeDomain u
  | init dimensions => exact careful_init ..
  | load path found wiping => exact careful_load ..

/-- When an operation refuses a request, nothing that it has sent to the graph store writes. -/
theorem refusals_come_before_writes (s : Service) (o : Operation α)
    (answer : (c : Call) → σ → c.Answer × σ) (x : σ) {e : Error}
    (hrun : ((o.workflow s).run answer x).1 = .error e) (he : e.Refuses) :
    ∀ turn ∈ (o.workflow s).exchanges answer x, ¬ turn.statement.Writes :=
  (o.careful_workflow s).not_writes_of_run (Prod.ext hrun rfl) he

/-- A node with a label that cannot be quoted, which shows only when its statement is made. -/
def rustWithoutALabel : Node.Creation where
  labels := ["Skill", " "]
  properties := [("name", .str "Rust")]

theorem rust_is_refused_before_writes :
    (((Operation.addNode rustWithoutALabel).workflow strictService).run emptyStore ()).1 =
        .error (.invalidInput "identifier must not be empty") ∧
      (Error.invalidInput "identifier must not be empty").Refuses ∧
      ∀ turn ∈ ((Operation.addNode rustWithoutALabel).workflow strictService).exchanges
        emptyStore (), ¬ turn.statement.Writes := by
  have hrun : (((Operation.addNode rustWithoutALabel).workflow strictService).run
      emptyStore ()).1 = .error (.invalidInput "identifier must not be empty") := rfl
  exact ⟨hrun, .invalidInput _, refusals_come_before_writes _ _ _ _ hrun (.invalidInput _)⟩

end Api

end KnowledgeGraph
