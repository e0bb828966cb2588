import KnowledgeGraph.Proofs.Api.Operations
import KnowledgeGraph.Proofs.Api.Passage
import KnowledgeGraph.Proofs.Http.Headers

/-!
# Discretion

Why an operation failed behind the service is never part of an answer. Two worlds whose backends
answer alike, but for what they say when they fail, lead to the same answer to any request.
-/

namespace KnowledgeGraph

open Http Api

theorem ofError_of_alike {e e' : Error} (h : e.Alike e') :
    Response.ofError e = Response.ofError e' := by
  rcases h with rfl | ⟨⟨operation, cause, rfl⟩, operation', cause', rfl⟩
  · rfl
  · rfl

namespace Lookalikes

open Workflow

variable {W : Lookalikes σ σ'}

-- ---------------------------------------------------------------------------
-- Endpoints
-- ---------------------------------------------------------------------------

theorem discreet_pure (res : Response) : W.Discreet (pure res) := (blind_pure res).discreet

theorem discreet_answerError (e : Error) : W.Discreet (answerError e) := by
  intro x x' _
  rw [run_answerError, run_answerError]
  exact .ok _

theorem discreet_respond {operation : Workflow α} (h : W.Blind operation) (encode : α → Response) :
    W.Discreet (respond operation encode) := by
  refine h.attempt_discreet fun r r' hr y y' => ?_
  cases hr with
  | ok a => exact .ok _
  | @error e e' he =>
    show ResultsAlike ((answerError e).run W.first y).1 ((answerError e').run W.second y').1
    rw [run_answerError, run_answerError, ofError_of_alike he]
    exact .ok _

theorem discreet_ofQuery (α : Type) [Wire.Readable α] (r : Request) {operation : α → Workflow β}
    (h : ∀ a, W.Blind (operation a)) (encode : β → Response) :
    W.Discreet (ofQuery α r operation encode) :=
  discreet_respond ((blind_lift _).bind h) encode

theorem discreet_ofBody (α : Type) [Wire.Readable α] (s : Service) (r : Request)
    {operation : α → Workflow β} (h : ∀ a, W.Blind (operation a)) (encode : β → Response) :
    W.Discreet (ofBody α s r operation encode) :=
  discreet_respond ((blind_lift _).bind h) encode

theorem discreet_answerHealth : W.Discreet answerHealth := by
  refine (blind_query .ping).attempt_discreet fun r r' hr y y' => ?_
  show ResultsAlike (.ok (found _)) (.ok (found _))
  rw [hr.isOk_eq]
  exact .ok _

theorem blind_visitNote (v : Visit) (text : String) : W.Blind (v.note text) := by
  unfold Visit.note
  split
  · exact blind_note _ _
  · exact blind_pure _

theorem discreet_answerUpload (s : Service) (r : Request) : W.Discreet (answerUpload s r) := by
  unfold answerUpload
  split
  · exact discreet_answerError _
  · split
    · exact discreet_pure _
    · exact discreet_respond ((blind_lift _).bind fun _ => blind_keep _ _ _ _ _) _

theorem discreet_answerProfile (name : String) : W.Discreet (answerProfile name) := by
  unfold answerProfile
  split
  · exact discreet_respond (blind_readProfile _) _
  · exact discreet_pure _

theorem discreet_answer (s : Service) (v : Visit) (e : Endpoint) : W.Discreet (s.answer v e) := by
  cases e with
  | root => exact discreet_pure _
  | health => exact discreet_answerHealth
  | metrics => exact (blind_counters.bind fun _ => blind_pure _).discreet
  | signUp => exact discreet_ofBody _ s _ (blind_signUp _ _) _
  | login => exact discreet_ofBody _ s _ (blind_login _ _) _
  | findNodes => exact discreet_ofQuery _ _ (blind_find _) _
  | findNearest => exact discreet_ofQuery _ _ (blind_findNearest _) _
  | addNode =>
    refine discreet_ofBody _ s _ (fun creation => ?_) _
    exact (blind_addNode _ _ creation).bind fun _ => (blind_visitNote v _).bind fun _ =>
      blind_pure _
  | changeNode => exact discreet_ofBody _ s _ blind_changeNode _
  | addRelationship =>
    refine discreet_ofBody _ s _ (fun creation => ?_) _
    exact (blind_addRelationship creation).bind fun _ => (blind_visitNote v _).bind fun _ =>
      blind_pure _
  | changeRelationship => exact discreet_ofBody _ s _ blind_changeRelationship _
  | removeRelationship =>
    refine discreet_ofBody _ s _ (fun deletion => ?_) _
    exact (blind_removeRelationship deletion).bind fun _ => (blind_visitNote v _).bind fun _ =>
      blind_pure _
  | findSimilar => exact discreet_ofBody _ s _ (blind_findSimilar _) _
  | searchNodes => exact discreet_ofQuery _ _ blind_findByName _
  | readDomain => exact discreet_ofQuery _ _ (fun _ => blind_readDomain _) _
  | checkDomainName => exact discreet_ofQuery _ _ (fun _ => blind_checkName _) _
  | addDomain => exact discreet_ofBody _ s _ blind_addDomain _
  | changeDomain => exact discreet_ofBody _ s _ blind_changeDomain _
  | readObject => exact discreet_ofQuery _ _ (fun _ => blind_fetch _ _ _) _
  | keepObject => exact discreet_answerUpload s _
  | embed => exact discreet_ofBody _ s _ (fun _ => blind_embedText _) _
  | profile name => exact discreet_answerProfile name

-- ---------------------------------------------------------------------------
-- The way to an endpoint and back
-- ---------------------------------------------------------------------------

theorem discreet_visit (s : Service) (e : Endpoint) (v : Visit) : W.Discreet (s.visit e v) := by
  unfold Service.visit
  split
  · exact discreet_answer s v e
  · exact discreet_pure _

theorem blind_authorize (s : Service) (r : Request) : W.Blind (s.authorize r) := by
  unfold Service.authorize
  split
  · exact (blind_count _).bind fun _ => blind_pure _
  · refine blind_now.bind fun now => ?_
    split
    · exact blind_pure _
    · exact (blind_count _).bind fun _ => blind_pure _

theorem discreet_dispatch (s : Service) (r : Request) : W.Discreet (s.dispatch r) := by
  unfold Service.dispatch
  split
  · exact discreet_pure _
  · split
    · refine (blind_authorize s r).bind_discreet fun claims => ?_
      cases claims with
      | none => exact discreet_pure _
      | some claims => exact discreet_visit _ _ _
    · exact discreet_visit _ _ _

theorem discreet_reply (s : Service) (r : Request) (a : Admission) :
    W.Discreet (s.reply r a) := by
  cases a with
  | preflight => exact discreet_pure _
  | limited after => exact ((blind_count _).bind fun _ => blind_pure _).discreet
  | admitted => exact (discreet_dispatch s r).map _

end Lookalikes

-- ---------------------------------------------------------------------------
-- Answers
-- ---------------------------------------------------------------------------

namespace Api

section
variable (s : Service) (r : Request) (res : Response)

theorem body_dress (id : String) : (s.dress r id res).body = (onlyHead r res).body := by
  unfold Service.dress onlyHead
  split
  · rfl
  · exact body_withMethods s r _

theorem headers_dress_without (id : String) :
    (s.dress r id res).headers.without idHeader =
      (s.withMethods r res).headers.without idHeader := by
  have hid : (res.withText idHeader id).headers.without idHeader = res.headers.without idHeader :=
    Headers.without_set_self ..
  have hallow (res : Response) (value : String) : (res.withText "allow" value).headers.without
      idHeader = (res.headers.without idHeader).setText "allow" value :=
    Headers.without_set_of_ne (by decide) ..
  rw [Service.dress, headers_onlyHead]
  unfold Service.withMethods
  split
  · split
    · exact hid
    · rw [hallow, hallow, hid]
  · exact hid

end

/-- Whatever a backend says when it fails, the answer to a request is the same. Only the id may be
another, if another was drawn. -/
theorem answers_hide_failures (W : Lookalikes σ σ') (s : Service) (r : Request)
    (ws : Traffic.Windows) {x : σ} {x' : σ'}
    (h : W.Same (W.first (.entropy idEntropy) x).2 (W.second (.entropy idEntropy) x').2) :
    ∃ res res' y y', (s.handle r ws).1.run W.first x = (.ok res, y) ∧
      (s.handle r ws).1.run W.second x' = (.ok res', y') ∧
      res.status = res'.status ∧ res.body = res'.body ∧
      res.headers.without idHeader = res'.headers.without idHeader ∧
      ((W.first (.entropy idEntropy) x).1 = (W.second (.entropy idEntropy) x').1 → res = res') := by
  obtain ⟨inner, z, hreply, hrun⟩ := exists_run_track s r (s.receive r ws).1 W.first x
  obtain ⟨inner', z', hreply', hrun'⟩ := exists_run_track s r (s.receive r ws).1 W.second x'
  have hinner := W.discreet_reply s r (s.receive r ws).1 _ _ h
  rw [hreply, hreply'] at hinner
  cases hinner
  refine ⟨_, _, _, _, hrun, hrun', ?_, ?_, ?_, ?_⟩
  · rw [status_dress, status_dress]
  · rw [body_dress, body_dress]
  · rw [headers_dress_without, headers_dress_without]
  · intro hid
    rw [hid]

def withoutStore (cause : String) : (c : Call) → Unit → c.Answer × Unit
  | .query _, _ => (.error ⟨"query", cause⟩, ())
  | .command _, _ => (.error ⟨"execute", cause⟩, ())
  | c, x => storeAlone (fun _ x => ([], x)) c x

def worldsWithoutStore : Lookalikes Unit Unit where
  first := withoutStore "connection refused"
  second := withoutStore "password of the store expired"
  Same _ _ := True
  alike c _ _ _ := by cases c <;> exact ⟨by first | rfl | trivial, trivial⟩

def briefService : Service := { strictService with maxBodyBytes := 64 }

def loginOfAda : Request where
  method := "POST"
  target := "/api/login"
  headers := [("content-type", Text.Utf8.bytes "application/json")]
  body := "\x7b\"username\":\"ada\",\"password\":\"a secret\"\x7d".toUTF8
  peer := none
  arrival := 0

theorem ada_learns_nothing_of_the_store :
    worldsWithoutStore.Same (worldsWithoutStore.first (.entropy idEntropy) ()).2
        (worldsWithoutStore.second (.entropy idEntropy) ()).2 ∧
      ∃ res res' y y',
        (briefService.handle loginOfAda ∅).1.run worldsWithoutStore.first () = (.ok res, y) ∧
        (briefService.handle loginOfAda ∅).1.run worldsWithoutStore.second () = (.ok res', y') ∧
        res = res' := by
  have h : worldsWithoutStore.Same (worldsWithoutStore.first (.entropy idEntropy) ()).2
      (worldsWithoutStore.second (.entropy idEntropy) ()).2 := trivial
  obtain ⟨res, res', y, y', hrun, hrun', -, -, -, hid⟩ :=
    answers_hide_failures worldsWithoutStore briefService loginOfAda ∅ h
  exact ⟨h, res, res', y, y', hrun, hrun', hid rfl⟩

end Api

end KnowledgeGraph
