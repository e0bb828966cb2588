import KnowledgeGraph.Api.Serving
import KnowledgeGraph.Proofs.Traffic.Interval
import KnowledgeGraph.Proofs.Workflow.Turns

/-!
# Admission

Which requests of a run get past the door. In an interval that is no longer than a window, a client
gets past it at most twice as often as a window has room for. A request that does not is answered
without a call to what stands behind the service.
-/

namespace KnowledgeGraph

open Http Traffic

namespace Api

-- ---------------------------------------------------------------------------
-- The status of an answer on its way back
-- ---------------------------------------------------------------------------

@[simp] theorem status_withText (res : Response) (name value : String) :
    (res.withText name value).status = res.status := rfl

@[simp] theorem status_protect (res : Response) : (protect res).status = res.status := rfl

@[simp] theorem status_share (origins : List String) (r : Request) (res : Response) :
    (share origins r res).status = res.status := by
  unfold share
  dsimp only
  split <;> rfl

@[simp] theorem status_withMethods (s : Service) (r : Request) (res : Response) :
    (s.withMethods r res).status = res.status := by
  unfold Service.withMethods
  split
  · split <;> rfl
  · rfl

@[simp] theorem status_onlyHead (r : Request) (res : Response) :
    (onlyHead r res).status = res.status := by
  unfold onlyHead
  split <;> rfl

-- ---------------------------------------------------------------------------
-- Requests beyond the limit
-- ---------------------------------------------------------------------------

section
variable (s : Service) (r : Request) (after : Nat)

theorem only_track_limited : (s.track r (.limited after)).Only fun c => ¬ c.IsBackend := by
  have hcount (event : Telemetry.Event) : ¬ (Call.count event).IsBackend := id
  refine Workflow.only_bind (.ask id fun _ => .done _) fun bytes => ?_
  refine Workflow.only_bind ?_ fun res => ?_
  · exact Workflow.only_bind (Workflow.only_count (hcount _)) fun _ => Workflow.only_pure _
  · exact Workflow.only_bind (Workflow.only_count (hcount _)) fun _ => Workflow.only_pure _

theorem run_track_limited (answer : (c : Call) → σ → c.Answer × σ) (x : σ) :
    ∃ res x', (s.track r (.limited after)).run answer x = (.ok res, x') ∧ res.status = 429 := by
  refine ⟨_, _, rfl, ?_⟩
  simp [tooMany, Response.ofJson]

end

-- ---------------------------------------------------------------------------
-- Runs of requests
-- ---------------------------------------------------------------------------

structure Served where
  request : Request
  admission : Admission
  answer : Workflow Response

def Service.serve (s : Service) : Windows → List Request → List Served
  | _, [] => []
  | ws, r :: rs => ⟨r, (s.receive r ws).1, (s.handle r ws).1⟩ :: s.serve (s.handle r ws).2 rs

def checksOf (rs : List Request) : List Check :=
  (rs.filter fun r => !isPreflight r).map fun r => ⟨client r, r.arrival⟩

variable {s : Service}

theorem Service.receive_of_preflight (h : isPreflight r = true) (ws : Windows) :
    s.receive r ws = (.preflight, ws) := if_pos h

theorem Service.receive_of_not_preflight (h : isPreflight r = false) (ws : Windows) :
    (s.receive r ws).2 = (s.limits.check (client r) r.arrival ws).2 ∧
      ((s.receive r ws).1 = .admitted ↔
        (s.limits.check (client r) r.arrival ws).1.isAllowed = true) := by
  unfold Service.receive
  rw [h, if_neg (by simp)]
  rcases s.limits.check (client r) r.arrival ws with ⟨remaining | after, ws'⟩ <;>
    simp [Decision.isAllowed]

def Served.isAdmittedWithin (k : String) (first last : Nat) (v : Served) : Bool :=
  client v.request = k ∧ first ≤ v.request.arrival ∧ v.request.arrival ≤ last ∧
    v.admission = .admitted

theorem countP_serve (k : String) (first last : Nat) (ws : Windows) (rs : List Request) :
    (s.serve ws rs).countP (Served.isAdmittedWithin k first last) =
      ((checksOf rs).zip (s.limits.run ws (checksOf rs))).countP fun p =>
        p.1.client = k && Limits.admittedWithin first last (p.1.time, p.2) := by
  induction rs generalizing ws with
  | nil => rfl
  | cons r rs ih =>
    cases hr : isPreflight r with
    | true =>
      have hchecks : checksOf (r :: rs) = checksOf rs := by simp [checksOf, hr]
      have hws : (s.handle r ws).2 = ws := congrArg Prod.snd (Service.receive_of_preflight hr ws)
      rw [Service.serve, List.countP_cons, hws, ih, hchecks]
      simp [Served.isAdmittedWithin, Service.receive_of_preflight hr]
    | false =>
      have hchecks : checksOf (r :: rs) = ⟨client r, r.arrival⟩ :: checksOf rs := by
        simp [checksOf, hr]
      obtain ⟨hws, hadmitted⟩ := Service.receive_of_not_preflight (s := s) hr ws
      have hws : (s.handle r ws).2 = (s.limits.check (client r) r.arrival ws).2 := hws
      rw [Service.serve, List.countP_cons, hws, ih, hchecks, Limits.run, List.zip_cons_cons,
        List.countP_cons]
      congr 1
      simp only [Served.isAdmittedWithin, hadmitted, Limits.admittedWithin, Bool.and_eq_true,
        decide_eq_true_eq, and_assoc]

theorem inOrder_checksOf {rs : List Request}
    (h : rs.Pairwise fun r r' => r.arrival ≤ r'.arrival) : InOrder (checksOf rs) :=
  List.pairwise_map.mpr (h.filter _)

/-- A request that is counted but not admitted is one beyond the limit. -/
theorem limited_of_mem_serve {ws : Windows} {rs : List Request} (hv : v ∈ s.serve ws rs)
    (hr : isPreflight v.request = false) (hnot : v.admission ≠ .admitted) :
    ∃ after, v.admission = .limited after ∧ v.answer = s.track v.request (.limited after) := by
  induction rs generalizing ws with
  | nil => cases hv
  | cons r rs ih =>
    rcases List.mem_cons.mp hv with rfl | hv
    · rcases ha : (s.receive r ws).1 with _ | after | _
      · unfold Service.receive at ha
        rw [hr, if_neg (by simp)] at ha
        split at ha <;> cases ha
      · exact ⟨after, rfl, congrArg (s.track r) ha⟩
      · exact absurd ha hnot
    · exact ih hv

/-- Of the requests of a client that come within an interval no longer than a window, at most twice
as many get past the door as a window has room for. Any other that is counted is answered that it is
one too many, without a call to a backend. -/
theorem admitted_at_most_twice_per_window (s : Service) {rs : List Request}
    (h : rs.Pairwise fun r r' => r.arrival ≤ r'.arrival) :
    (∀ k first last, last ≤ first + s.limits.window →
      (s.serve ∅ rs).countP (Served.isAdmittedWithin k first last) ≤ 2 * s.limits.maxRequests) ∧
    ∀ v ∈ s.serve ∅ rs, isPreflight v.request = false → v.admission ≠ .admitted →
      (v.answer.Only fun c => ¬ c.IsBackend) ∧
        ∀ {σ : Type} (answer : (c : Call) → σ → c.Answer × σ) (x : σ), ∃ res x',
          v.answer.run answer x = (.ok res, x') ∧ res.status = 429 := by
  constructor
  · intro k first last hlength
    rw [countP_serve]
    exact Limits.countP_run_le (inOrder_checksOf h) k hlength
  · intro v hv hr hnot
    obtain ⟨after, -, hanswer⟩ := limited_of_mem_serve hv hr hnot
    rw [hanswer]
    exact ⟨only_track_limited s v.request after, run_track_limited s v.request after⟩

def requestsOfAda : List Request :=
  let forwarded (arrival : Nat) : Request :=
    ⟨"GET", "/api/", [("x-forwarded-for", Text.Utf8.bytes " ada , proxy")], .empty, none, arrival⟩
  let direct (arrival : Nat) : Request :=
    ⟨"POST", "/api/login", [("x-real-ip", Text.Utf8.bytes "ada")], .empty, none, arrival⟩
  [forwarded 0, direct 9, direct 10, forwarded 11, direct 12]

def strictService : Service where
  graph := {}
  tokens := ⟨[], 0⟩
  passwords := Password.argon2id
  limits := ⟨2, 10⟩
  origins := []
  maxBodyBytes := 0
  bucket := none
  drawsImages := false
  showsMetrics := false

theorem ada_is_admitted_at_most_four_times :
    (requestsOfAda.Pairwise fun r r' => r.arrival ≤ r'.arrival) ∧
      (∀ r ∈ requestsOfAda, client r = "ada" ∧ isPreflight r = false) ∧
      (strictService.serve ∅ requestsOfAda).countP (Served.isAdmittedWithin "ada" 9 19) ≤ 4 := by
  have h : requestsOfAda.Pairwise fun r r' => r.arrival ≤ r'.arrival := by decide
  refine ⟨h, by decide +kernel, ?_⟩
  exact (admitted_at_most_twice_per_window strictService h).1 "ada" 9 19 (by decide)

end Api

end KnowledgeGraph
