import KnowledgeGraph.Api.Answering
import KnowledgeGraph.Proofs.Workflow.Lookalikes

/-!
# Operations and failures behind them

No operation looks at how a backend failed: it ends there, and its error is that of the backend.
-/

namespace KnowledgeGraph.Lookalikes

open Workflow

variable {W : Lookalikes σ σ'}

-- ---------------------------------------------------------------------------
-- Nodes
-- ---------------------------------------------------------------------------

section
variable (settings : Graph.Settings)

theorem blind_find (q : Node.Query) : W.Blind (Node.find settings q) :=
  (blind_lift _).bind fun _ => (blind_query _).bind fun _ => blind_pure _

theorem blind_findNearest (q : Node.TermQuery) : W.Blind (Node.findNearest settings q) :=
  (blind_lift _).bind fun _ => (blind_lift _).bind fun _ => (blind_embed _).bind fun _ =>
    (blind_query _).bind fun _ => blind_pure _

theorem blind_embedText (text : String) : W.Blind (Node.embed text) := by
  unfold Node.embed
  split
  · exact blind_refuse _
  · exact blind_embed text

theorem blind_findSimilar (q : Node.SimilarityQuery) : W.Blind (Node.findSimilar settings q) :=
  (blind_lift _).bind fun _ => (blind_query _).bind fun _ => blind_pure _

theorem blind_findByName (q : Node.SearchQuery) : W.Blind (Node.findByName q) :=
  (blind_lift _).bind fun _ => (blind_query _).bind fun _ => blind_pure _

theorem blind_illustrate (bucket name subject : String) :
    W.Blind (Node.illustrate bucket name subject) :=
  (blind_draw _).bind fun _ => blind_now.bind fun _ => (blind_put _ _ _).bind fun _ => blind_pure _

theorem blind_addNode (bucket : Option String) (c : Node.Creation) :
    W.Blind (Node.add settings bucket c) := by
  unfold Node.add
  split
  · exact blind_refuse _
  split
  · exact blind_refuse _
  refine (blind_embed _).bind fun embedding => (blind_query _).bind fun nearest => ?_
  split
  · exact (blind_count _).bind fun _ => blind_refuse _
  have hwrite (properties : Json.Members) : W.Blind (do
      let properties :=
        properties.insert Node.embeddingProperty (.arr (embedding.map .float))
      let rows ← Workflow.query (← Node.create c.labels (Node.flatten properties))
      Workflow.count .nodeCreated
      return rows) :=
    (blind_lift _).bind fun _ => (blind_query _).bind fun _ => (blind_count _).bind fun _ =>
      blind_pure _
  split
  · exact (blind_illustrate _ _ _).bind fun _ => (blind_pure _).bind hwrite
  · exact (blind_pure _).bind hwrite

theorem blind_changeNode (u : Node.Update) : W.Blind (Node.change u) :=
  (blind_lift _).bind fun _ => (blind_query _).bind fun _ => (blind_lift _).bind fun _ =>
    blind_pure _

end

-- ---------------------------------------------------------------------------
-- Relationships
-- ---------------------------------------------------------------------------

theorem blind_addRelationship (c : Relationship.Creation) : W.Blind (Relationship.add c) :=
  (blind_lift _).bind fun _ => (blind_query _).bind fun _ => blind_lift _

theorem blind_changeRelationship (u : Relationship.Update) : W.Blind (Relationship.change u) :=
  (blind_lift _).bind fun _ => (blind_query _).bind fun _ => blind_lift _

theorem blind_removeRelationship (d : Relationship.Deletion) :
    W.Blind (Relationship.remove d) := by
  refine (blind_lift _).bind fun id => (blind_query _).bind fun rows => ?_
  dsimp only
  split
  · exact blind_refuse _
  · exact blind_pure _

-- ---------------------------------------------------------------------------
-- Domains
-- ---------------------------------------------------------------------------

theorem blind_readDomain (name : String) : W.Blind (Domain.read name) := by
  refine (blind_lift _).bind fun name => (blind_query _).bind fun rows => ?_
  split
  · exact blind_pure _
  · exact blind_refuse _

theorem blind_holder? (name : String) : W.Blind (Domain.holder? name) :=
  (blind_query _).bind fun _ => blind_pure _

theorem blind_checkName (name : String) : W.Blind (Domain.checkName name) :=
  (blind_lift _).bind fun _ => (blind_holder? _).bind fun _ => blind_pure _

theorem blind_writeRequirement (levelId : String) (r : Domain.Requirement) :
    W.Blind (Domain.writeRequirement levelId r) := by
  unfold Domain.writeRequirement
  split
  · exact (blind_query _).bind fun _ => blind_pure _
  · exact (blind_query _).bind fun _ => (blind_lift _).bind fun _ => (blind_query _).bind fun _ =>
      blind_pure _
  · exact blind_pure _

theorem blind_writeRequirements (levelId : String) (rs : List Domain.Requirement) :
    W.Blind (Domain.writeRequirements levelId rs) := by
  induction rs with
  | nil => exact blind_pure _
  | cons r rs ih =>
    exact (blind_writeRequirement levelId r).bind fun _ => ih.bind fun _ => blind_pure _

theorem blind_writeLevels (domainId : String) (levels : List Domain.Level) :
    W.Blind (Domain.writeLevels domainId levels) := by
  induction levels with
  | nil => exact blind_pure _
  | cons level levels ih =>
    exact (blind_query _).bind fun _ => (blind_lift _).bind fun levelId =>
      (blind_writeRequirements levelId _).bind fun _ => ih.bind fun _ => blind_pure _

theorem blind_addDomain (c : Domain.Creation) : W.Blind (Domain.add c) := by
  refine (blind_lift _).bind fun name => (blind_holder? name).bind fun holder => ?_
  split
  · exact blind_refuse _
  · exact (blind_query _).bind fun _ => (blind_lift _).bind fun _ =>
      (blind_writeLevels _ _).bind fun _ => (blind_count _).bind fun _ => blind_pure _

theorem blind_dropProgress (removed : List String) : W.Blind (Domain.dropProgress removed) := by
  unfold Domain.dropProgress
  split
  · exact blind_pure _
  · exact (blind_query _).bind fun _ => blind_pure _

theorem blind_changeDomain (u : Domain.Update) : W.Blind (Domain.change u) := by
  refine (blind_lift _).bind fun domainId => (blind_lift _).bind fun name =>
    (blind_query _).bind fun found => ?_
  split
  · exact blind_refuse _
  · exact (blind_dropProgress _).bind fun _ => (blind_query _).bind fun _ =>
      (blind_query _).bind fun _ => (blind_writeLevels _ _).bind fun _ =>
        (blind_count _).bind fun _ => blind_pure _

-- ---------------------------------------------------------------------------
-- People
-- ---------------------------------------------------------------------------

section
variable (scheme : Password.Scheme) (tokens : Token.Authority)

theorem blind_issueToken (username : String) : W.Blind (Person.issueToken tokens username) :=
  blind_now.bind fun _ => blind_pure _

theorem blind_signUp (request : Person.SignUp) : W.Blind (Person.signUp scheme tokens request) := by
  refine (blind_lift _).bind fun _ => (blind_query _).bind fun taken => ?_
  have hwrite : W.Blind (do
      let salt ← Workflow.entropy scheme.saltSize
      let stored ← scheme.hash salt.toList request.password
      discard <| Workflow.query (Person.create (Text.trim request.username) stored
        (Text.trim request.phone))
      Workflow.count .accountCreated
      Person.issueToken tokens (Text.trim request.username)) :=
    (blind_entropy _).bind fun _ => (blind_lift _).bind fun _ =>
      ((blind_query _).bind fun _ => blind_pure _).bind fun _ =>
        (blind_count _).bind fun _ => blind_issueToken tokens _
  split
  · exact hwrite
  · exact (blind_refuse _).bind fun _ => hwrite

theorem blind_login (request : Person.Login) : W.Blind (Person.login scheme tokens request) := by
  refine (blind_lift _).bind fun _ => (blind_query _).bind fun rows => (blind_lift _).bind
    fun stored => (blind_lift _).bind fun isSame => ?_
  split
  · exact blind_issueToken tokens _
  · exact (blind_refuse _).bind fun _ => blind_issueToken tokens _

theorem blind_readProfile (username : String) : W.Blind (Person.readProfile username) :=
  (blind_lift _).bind fun _ => (blind_query _).bind fun _ => (blind_lift _).bind fun _ =>
    blind_pure _

end

-- ---------------------------------------------------------------------------
-- Objects
-- ---------------------------------------------------------------------------

theorem blind_fetch (defaultBucket bucket key : Option String) :
    W.Blind (Asset.fetch defaultBucket bucket key) :=
  (blind_lift _).bind fun _ => blind_get _ _

theorem blind_keep (defaultBucket bucket key : Option String) (bytes : ByteArray)
    (declared : Option String) : W.Blind (Asset.keep defaultBucket bucket key bytes declared) :=
  (blind_lift _).bind fun _ => blind_put _ _ _

end KnowledgeGraph.Lookalikes
