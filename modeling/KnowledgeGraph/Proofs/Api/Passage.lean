import KnowledgeGraph.Proofs.Api.Admission
import KnowledgeGraph.Proofs.Workflow.Errors

/-!
# The way of an answer

Whatever becomes of a request, it is answered: no failure on the way ends the service's own work.
Between the draw of its id and the count of its answer stands what the request was answered, and
nothing else is asked of the world.
-/

namespace KnowledgeGraph.Api

open Http

-- ---------------------------------------------------------------------------
-- Every request is answered
-- ---------------------------------------------------------------------------

section
variable {kind : Error → Prop}

theorem failsOnly_answerError (e : Error) : (answerError e).FailsOnly kind := by
  cases e with
  | operationFailed operation cause =>
    exact Workflow.failsOnly_bind (Workflow.failsOnly_count _) fun _ => Workflow.failsOnly_pure _
  | _ => exact Workflow.failsOnly_pure _

theorem failsOnly_respond (operation : Workflow α) (encode : α → Response) :
    (respond operation encode).FailsOnly kind := by
  refine Workflow.failsOnly_bind (Workflow.failsOnly_attempt operation) fun outcome => ?_
  cases outcome with
  | ok a => exact Workflow.failsOnly_pure _
  | error e => exact failsOnly_answerError e

theorem failsOnly_answerUpload (s : Service) (r : Request) :
    (answerUpload s r).FailsOnly kind := by
  unfold answerUpload
  split
  · exact failsOnly_answerError _
  · split
    · exact Workflow.failsOnly_pure _
    · exact failsOnly_respond _ _

theorem failsOnly_answerProfile (name : String) : (answerProfile name).FailsOnly kind := by
  unfold answerProfile
  split
  · exact failsOnly_respond _ _
  · exact Workflow.failsOnly_pure _

theorem failsOnly_answer (s : Service) (v : Visit) (e : Endpoint) :
    (s.answer v e).FailsOnly kind := by
  cases e with
  | root => exact Workflow.failsOnly_pure _
  | health =>
    exact Workflow.failsOnly_bind (Workflow.failsOnly_attempt _) fun _ => Workflow.failsOnly_pure _
  | metrics => exact .ask fun _ => .ok _
  | keepObject => exact failsOnly_answerUpload s v.request
  | profile name => exact failsOnly_answerProfile name
  | _ => exact failsOnly_respond _ _

theorem failsOnly_visit (s : Service) (e : Endpoint) (v : Visit) :
    (s.visit e v).FailsOnly kind := by
  unfold Service.visit
  split
  · exact failsOnly_answer s v e
  · exact Workflow.failsOnly_pure _

theorem failsOnly_authorize (s : Service) (r : Request) : (s.authorize r).FailsOnly kind := by
  unfold Service.authorize
  split
  · exact Workflow.failsOnly_bind (Workflow.failsOnly_count _) fun _ => Workflow.failsOnly_pure _
  · refine Workflow.failsOnly_bind (.ask fun _ => .ok _) fun now => ?_
    split
    · exact Workflow.failsOnly_pure _
    · exact Workflow.failsOnly_bind (Workflow.failsOnly_count _) fun _ => Workflow.failsOnly_pure _

theorem failsOnly_dispatch (s : Service) (r : Request) : (s.dispatch r).FailsOnly kind := by
  unfold Service.dispatch
  split
  · exact Workflow.failsOnly_pure _
  · split
    · refine Workflow.failsOnly_bind (failsOnly_authorize s r) fun claims => ?_
      cases claims with
      | none => exact Workflow.failsOnly_pure _
      | some claims => exact failsOnly_visit ..
    · exact failsOnly_visit ..

theorem failsOnly_reply (s : Service) (r : Request) (a : Admission) :
    (s.reply r a).FailsOnly kind := by
  cases a with
  | preflight => exact Workflow.failsOnly_pure _
  | limited after =>
    exact Workflow.failsOnly_bind (Workflow.failsOnly_count _) fun _ => Workflow.failsOnly_pure _
  | admitted =>
    exact Workflow.failsOnly_bind (failsOnly_dispatch s r) fun _ => Workflow.failsOnly_pure _

end

section
variable (answer : (c : Call) → σ → c.Answer × σ)

theorem run_answerError (e : Error) (x : σ) :
    ((answerError e).run answer x).1 = .ok (.ofError e) := by
  cases e <;> rfl

theorem run_respond (operation : Workflow α) (encode : α → Response) (x : σ) :
    ((respond operation encode).run answer x).1 =
      .ok (match (operation.run answer x).1 with
        | .ok a => encode a
        | .error e => .ofError e) := by
  rw [respond, Workflow.run_bind, Workflow.run_attempt]
  cases (operation.run answer x).1 with
  | ok a => rfl
  | error e => exact run_answerError answer e _

end

-- ---------------------------------------------------------------------------
-- At the door
-- ---------------------------------------------------------------------------

/-- A request asks beforehand and changes no window, or its client's window decides about it. -/
theorem Service.receive_cases (s : Service) (r : Request) (ws : Traffic.Windows) :
    (r.method = "OPTIONS" ∧ s.receive r ws = (.preflight, ws)) ∨
      (r.method ≠ "OPTIONS" ∧ (s.receive r ws).2 = (s.limits.check (client r) r.arrival ws).2 ∧
        (((s.limits.check (client r) r.arrival ws).1.isAllowed = false ∧
            ∃ after, (s.receive r ws).1 = .limited after) ∨
          ((s.limits.check (client r) r.arrival ws).1.isAllowed = true ∧
            (s.receive r ws).1 = .admitted))) := by
  by_cases hmethod : r.method = "OPTIONS"
  · exact .inl ⟨hmethod, Service.receive_of_preflight (beq_iff_eq.2 hmethod) ws⟩
  · have hr : isPreflight r = false := beq_false_of_ne hmethod
    refine .inr ⟨hmethod, (Service.receive_of_not_preflight hr ws).1, ?_⟩
    unfold Service.receive
    rw [hr, if_neg (by simp)]
    rcases s.limits.check (client r) r.arrival ws with ⟨remaining | after, ws'⟩
    · exact .inr ⟨rfl, rfl⟩
    · exact .inl ⟨rfl, after, rfl⟩

-- ---------------------------------------------------------------------------
-- From the id to the count
-- ---------------------------------------------------------------------------

theorem headers_onlyHead (r : Request) (res : Response) :
    (onlyHead r res).headers = res.headers := by
  unfold onlyHead
  split <;> rfl

def requestId (r : Request) (bytes : ByteArray) : String :=
  (Context.ofRequest (r.headers.text? idHeader) (idOfBytes bytes.toList) (client r)).requestId

/-- What a client gets of a response, under an id. -/
def Service.dress (s : Service) (r : Request) (id : String) (res : Response) : Response :=
  onlyHead r (s.withMethods r (res.withText idHeader id))

@[simp] theorem status_dress (s : Service) (r : Request) (id : String) (res : Response) :
    (s.dress r id res).status = res.status := by
  rw [Service.dress, status_onlyHead, status_withMethods, status_withText]

theorem body_withMethods (s : Service) (r : Request) (res : Response) :
    (s.withMethods r res).body = res.body := by
  unfold Service.withMethods
  split
  · split <;> rfl
  · rfl

section
variable {answer : (c : Call) → σ → c.Answer × σ} {s : Service} {r : Request} {a : Admission}

theorem run_reply_admitted (h : (s.dispatch r).run answer y = (.ok res, z)) :
    (s.reply r .admitted).run answer y = (.ok (share s.origins r (protect res)), z) :=
  Workflow.run_bind_of_ok h _

theorem turns_reply_admitted (h : (s.dispatch r).run answer y = (.ok res, z)) :
    (s.reply r .admitted).turns answer y = (s.dispatch r).turns answer y :=
  (Workflow.turns_bind_of_ok h _).trans (List.append_nil _)

theorem run_track (hid : answer (.entropy idEntropy) x = (bytes, y))
    (h : (s.reply r a).run answer y = (.ok res, z)) :
    (s.track r a).run answer x = (.ok (s.dress r (requestId r bytes) res),
      (answer (.count (.answered r.method res.status)) z).2) := by
  obtain ⟨rfl, rfl⟩ := Prod.mk.inj hid
  exact Workflow.run_bind_of_ok h _

theorem turns_track (hid : answer (.entropy idEntropy) x = (bytes, y))
    (h : (s.reply r a).run answer y = (.ok res, z)) :
    (s.track r a).turns answer x =
      ⟨.entropy idEntropy, bytes⟩ :: (s.reply r a).turns answer y ++
        [⟨.count (.answered r.method res.status), ()⟩] := by
  obtain ⟨rfl, rfl⟩ := Prod.mk.inj hid
  exact congrArg _ (Workflow.turns_bind_of_ok h _)

end

/-- Whatever becomes of a request, it is answered with what it was replied, under its id. -/
theorem exists_run_track (s : Service) (r : Request) (a : Admission)
    (answer : (c : Call) → σ → c.Answer × σ) (x : σ) :
    ∃ res z, (s.reply r a).run answer (answer (.entropy idEntropy) x).2 = (.ok res, z) ∧
      (s.track r a).run answer x =
        (.ok (s.dress r (requestId r (answer (.entropy idEntropy) x).1) res),
          (answer (.count (.answered r.method res.status)) z).2) := by
  obtain ⟨res, z, h⟩ := (failsOnly_reply s r a).exists_of_run answer _
  exact ⟨res, z, h, run_track rfl h⟩

end KnowledgeGraph.Api
