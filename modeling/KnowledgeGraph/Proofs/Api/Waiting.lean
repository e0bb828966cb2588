import KnowledgeGraph.Proofs.Api.Forms
import KnowledgeGraph.Proofs.Api.Protection
import KnowledgeGraph.Proofs.Traffic.Waiting

/-!
# Clients that wait

A client that is refused is told in whole seconds how long to wait, at least one and otherwise as
many as are full. So where some part of a second is left of its window, the client is refused once
more if it comes back too early in this part.
-/

namespace KnowledgeGraph

open Http Traffic

namespace Api

-- ---------------------------------------------------------------------------
-- Only the door says that it is too many
-- ---------------------------------------------------------------------------

abbrev NeverTooMany (w : Workflow Response) : Prop := w.Yields fun res => res.status ≠ 429

theorem neverTooMany_dispatch (s : Service) (r : Request) : NeverTooMany (s.dispatch r) :=
  (undressed_dispatch s r).imp fun _ h => h.status

-- ---------------------------------------------------------------------------
-- One request after others
-- ---------------------------------------------------------------------------

def Service.windowsAfter (s : Service) (ws : Windows) (rs : List Request) : Windows :=
  rs.foldl (fun ws r => (s.handle r ws).2) ws

/-- Whatever stands behind the service does, a request is answered in a way. -/
def Service.Answers (s : Service) (r : Request) (ws : Windows) (way : Response → Prop) : Prop :=
  ∀ (σ : Type) (answer : (c : Call) → σ → c.Answer × σ) (x : σ), ∃ res y,
    (s.handle r ws).1.run answer x = (.ok res, y) ∧ way res

/-- A request is the next of a client, after one and others between them. -/
structure IsNext (r : Request) (between : List Request) (r' : Request) : Prop where
  client : client r' = client r
  later : r.arrival ≤ r'.arrival
  others : ∀ q ∈ between, Api.client q ≠ Api.client r ∧ q.arrival ≤ r'.arrival

def secondsToWait (after : Nat) : Nat := max 1 (after / nanosecondsPerSecond)

variable {s : Service} {r : Request} {ws : Windows}

theorem checksOf_cons_of_not_preflight (h : isPreflight r = false) (rs : List Request) :
    checksOf (r :: rs) = ⟨client r, r.arrival⟩ :: checksOf rs := by
  simp [checksOf, h]

theorem checksOf_append (rs rs' : List Request) :
    checksOf (rs ++ rs') = checksOf rs ++ checksOf rs' := by
  simp [checksOf]

theorem windowsAfter_eq (ws : Windows) (rs : List Request) :
    s.windowsAfter ws rs = s.limits.windowsAfter ws (checksOf rs) := by
  induction rs generalizing ws with
  | nil => rfl
  | cons r rs ih =>
    rw [Service.windowsAfter, List.foldl_cons, ← Service.windowsAfter, ih]
    cases hr : isPreflight r with
    | true =>
      have hws : (s.handle r ws).2 = ws := congrArg Prod.snd (Service.receive_of_preflight hr ws)
      rw [hws]
      simp [checksOf, hr]
    | false =>
      have hws : (s.handle r ws).2 = (s.limits.check (client r) r.arrival ws).2 :=
        (Service.receive_of_not_preflight hr ws).1
      rw [hws, checksOf_cons_of_not_preflight hr]
      rfl

theorem receive_eq_limited_iff : (s.receive r ws).1 = .limited after ↔
    r.method ≠ "OPTIONS" ∧ (s.limits.check (client r) r.arrival ws).1 = .limited after := by
  unfold Service.receive isPreflight
  by_cases hmethod : r.method = "OPTIONS"
  · simp [hmethod]
  · rw [if_neg (by simpa using hmethod)]
    rcases s.limits.check (client r) r.arrival ws with ⟨remaining | after', ws'⟩ <;> simp [hmethod]

section
variable {answer : (c : Call) → σ → c.Answer × σ}

theorem status_handle_iff (h : (s.handle r ws).1.run answer x = (.ok res, y)) :
    res.status = 429 ↔ ∃ after, (s.receive r ws).1 = .limited after := by
  obtain ⟨inner, z, hreply, hrun⟩ := exists_run_track s r (s.receive r ws).1 answer x
  cases hrun.symm.trans h
  rw [status_dress]
  cases ha : (s.receive r ws).1 with
  | preflight =>
    rw [ha] at hreply
    cases hreply
    simp [preflight, Response.ofStatus]
  | limited after =>
    rw [ha] at hreply
    cases hreply
    simp [tooMany, Response.ofJson]
  | admitted =>
    rw [ha] at hreply
    obtain ⟨answered, z', hdispatch⟩ := (failsOnly_dispatch s r).exists_of_run answer _
    cases (run_reply_admitted hdispatch).symm.trans hreply
    simpa using (neverTooMany_dispatch s r).of_run hdispatch

theorem values_retryAfter (ha : (s.receive r ws).1 = .limited after)
    (h : (s.handle r ws).1.run answer x = (.ok res, y)) :
    res.headers.values "retry-after" = [Text.Utf8.bytes (Nat.repr (secondsToWait after))] := by
  obtain ⟨inner, z, hreply, hrun⟩ := exists_run_track s r (s.receive r ws).1 answer x
  cases hrun.symm.trans h
  rw [ha] at hreply
  cases hreply
  rw [values_dress s r _ (by decide) (by decide), values_share (by decide)]
  simp [protect, protectiveHeaders, tooMany, secondsToWait, Response.values_withText_of_ne,
    Response.values_withText_self]

end

/-- The seconds that a client is told to wait are enough if its window lasts no longer than one
second, or a whole number of them. -/
theorem le_secondsToWait_iff : after ≤ secondsToWait after * nanosecondsPerSecond ↔
    after ≤ nanosecondsPerSecond ∨ nanosecondsPerSecond ∣ after := by
  unfold secondsToWait nanosecondsPerSecond
  omega

theorem mem_checksOf (h : c ∈ checksOf rs) : ∃ r ∈ rs, c = ⟨client r, r.arrival⟩ := by
  obtain ⟨r, hr, rfl⟩ := List.mem_map.1 h
  exact ⟨r, (List.mem_filter.1 hr).1, rfl⟩

theorem next_is_limited_iff (hmax : 0 < s.limits.maxRequests) {before between : List Request}
    (hbefore : ∀ q ∈ before, q.arrival ≤ r.arrival)
    (hlimited : (s.receive r (s.windowsAfter ∅ before)).1 = .limited after)
    (hnext : IsNext r between r') :
    (∃ after', (s.receive r' (s.windowsAfter ∅ (before ++ r :: between))).1 = .limited after') ↔
      r'.method ≠ "OPTIONS" ∧ r'.arrival ≤ r.arrival + after := by
  obtain ⟨hmethod, hcheck⟩ := receive_eq_limited_iff.1 hlimited
  rw [windowsAfter_eq] at hcheck
  have hchecks : checksOf (before ++ r :: between) =
      checksOf before ++ ⟨client r, r.arrival⟩ :: checksOf between := by
    rw [checksOf_append, checksOf_cons_of_not_preflight (beq_false_of_ne hmethod)]
  have hearly : ∀ c ∈ checksOf before, c.time ≤ r.arrival := by
    intro c hc
    obtain ⟨q, hq, rfl⟩ := mem_checksOf hc
    exact hbefore q hq
  have hothers : ∀ c ∈ checksOf between, c.client ≠ client r ∧ c.time ≤ r'.arrival := by
    intro c hc
    obtain ⟨q, hq, rfl⟩ := mem_checksOf hc
    exact hnext.others q hq
  simp only [receive_eq_limited_iff, exists_and_left]
  refine and_congr_right fun _ => ?_
  rw [hnext.client, windowsAfter_eq, hchecks,
    Limits.admitted_only_after_waiting hmax hearly hcheck hothers hnext.later]
  split <;> simp <;> omega

theorem answers_status_iff (s : Service) (r : Request) (ws : Windows) :
    s.Answers r ws fun res => (res.status = 429 ↔ ∃ after, (s.receive r ws).1 = .limited after) := by
  intro σ answer x
  obtain ⟨inner, z, -, hrun⟩ := exists_run_track s r (s.receive r ws).1 answer x
  exact ⟨_, _, hrun, status_handle_iff hrun⟩

theorem Service.Answers.imp {way way' : Response → Prop} (h : s.Answers r ws way)
    (himp : ∀ res, way res → way' res) : s.Answers r ws way' := by
  intro σ answer x
  obtain ⟨res, y, hrun, hres⟩ := h σ answer x
  exact ⟨res, y, hrun, himp res hres⟩

/-- A client that was refused and told to wait so many seconds is refused with its next request
exactly as long as its window lasts. So it may be refused after these seconds, unless no more than
one second or a whole number of them was left. -/
theorem refused_clients_wait_enough_iff (s : Service) (hmax : 0 < s.limits.maxRequests)
    {before : List Request} {r : Request} (hbefore : ∀ q ∈ before, q.arrival ≤ r.arrival)
    {answer : (c : Call) → σ → c.Answer × σ}
    (hrun : (s.handle r (s.windowsAfter ∅ before)).1.run answer x = (.ok res, y))
    (hstatus : res.status = 429) :
    ∃ after, (s.receive r (s.windowsAfter ∅ before)).1 = .limited after ∧
      res.headers.values "retry-after" = [Text.Utf8.bytes (Nat.repr (secondsToWait after))] ∧
      (∀ between r', IsNext r between r' →
        s.Answers r' (s.windowsAfter ∅ (before ++ r :: between)) fun res' =>
          (res'.status = 429 ↔ r'.method ≠ "OPTIONS" ∧ r'.arrival ≤ r.arrival + after)) ∧
      ((∀ between r', IsNext r between r' →
          r.arrival + secondsToWait after * nanosecondsPerSecond < r'.arrival →
          s.Answers r' (s.windowsAfter ∅ (before ++ r :: between)) fun res' => res'.status ≠ 429) ↔
        after ≤ nanosecondsPerSecond ∨ nanosecondsPerSecond ∣ after) := by
  obtain ⟨after, hlimited⟩ := (status_handle_iff hrun).1 hstatus
  have hnext (between : List Request) (r' : Request) (hnext : IsNext r between r') :
      s.Answers r' (s.windowsAfter ∅ (before ++ r :: between)) fun res' =>
        (res'.status = 429 ↔ r'.method ≠ "OPTIONS" ∧ r'.arrival ≤ r.arrival + after) :=
    (answers_status_iff s r' _).imp fun res' hres' =>
      hres'.trans (next_is_limited_iff hmax hbefore hlimited hnext)
  refine ⟨after, hlimited, values_retryAfter hlimited hrun, hnext, ?_⟩
  rw [← le_secondsToWait_iff]
  constructor
  · intro h
    refine Nat.le_of_not_lt fun hlt => ?_
    -- The client comes back in the last moment of its window.
    let last : Request := { r with arrival := r.arrival + after }
    have hlast : IsNext r [] last := ⟨rfl, Nat.le_add_right .., List.forall_mem_nil _⟩
    obtain ⟨res', y', hrun', hne⟩ := h [] last hlast (Nat.add_lt_add_left hlt _) _ emptyStore ()
    obtain ⟨res'', y'', hrun'', hiff⟩ := hnext [] last hlast _ emptyStore ()
    cases hrun''.symm.trans hrun'
    exact hne (hiff.2 ⟨(receive_eq_limited_iff.1 hlimited).1, Nat.le_refl _⟩)
  · intro hle between r' hr' hlater
    refine (hnext between r' hr').imp fun res' hiff htoo => ?_
    have := (hiff.1 htoo).2
    omega

def patientService : Service := { strictService with limits := .ofSeconds 1 2 }

def visitAfter (milliseconds : Nat) : Request :=
  ⟨"GET", "/api", [], .empty, none, milliseconds * 1000000⟩

theorem receive_visitAfter : (patientService.receive (visitAfter 500)
    (patientService.windowsAfter ∅ [visitAfter 0])).1 = .limited 1500000000 := by
  have hchecks : checksOf [visitAfter 0] = [⟨"anonymous", 0⟩] := by decide +kernel
  have hclient : client (visitAfter 500) = "anonymous" := by decide +kernel
  rw [receive_eq_limited_iff, windowsAfter_eq, hchecks, hclient, Limits.check_fst,
    Limits.windowsAfter, List.foldl_cons, List.foldl_nil, Limits.getElem?_check_self,
    Std.HashMap.getElem?_empty]
  exact ⟨by decide, rfl⟩

theorem visitor_is_admitted_after_the_window :
    (∃ res y, (patientService.handle (visitAfter 500)
        (patientService.windowsAfter ∅ [visitAfter 0])).1.run emptyStore () = (.ok res, y) ∧
      res.status = 429) ∧
    patientService.Answers (visitAfter 2001)
      (patientService.windowsAfter ∅ [visitAfter 0, visitAfter 500])
      fun res => res.status ≠ 429 := by
  obtain ⟨res, y, hrun, hiff⟩ := answers_status_iff patientService (visitAfter 500)
    (patientService.windowsAfter ∅ [visitAfter 0]) _ emptyStore ()
  have hstatus := hiff.2 ⟨_, receive_visitAfter⟩
  have hbefore : ∀ q ∈ [visitAfter 0], q.arrival ≤ (visitAfter 500).arrival := by decide
  obtain ⟨after, hafter, -, hnext, -⟩ :=
    refused_clients_wait_enough_iff patientService (by decide) hbefore hrun hstatus
  cases hafter.symm.trans receive_visitAfter
  have hlast : IsNext (visitAfter 500) [] (visitAfter 2001) :=
    ⟨rfl, by decide, List.forall_mem_nil _⟩
  refine ⟨⟨res, y, hrun, hstatus⟩, (hnext [] _ hlast).imp fun res' hiff htoo => ?_⟩
  exact absurd (hiff.1 htoo).2 (by decide)

/-- Of one and a half seconds that are left of a window, its client is told to wait one. If it comes
back after a little more than that, it is refused again. -/
theorem visitor_is_refused_after_the_seconds_told :
    (patientService.Answers (visitAfter 500) (patientService.windowsAfter ∅ [visitAfter 0])
      fun res => res.status = 429 ∧
        res.headers.values "retry-after" = [Text.Utf8.bytes (Nat.repr 1)]) ∧
    IsNext (visitAfter 500) [] (visitAfter 1501) ∧
    (visitAfter 500).arrival + 1 * nanosecondsPerSecond < (visitAfter 1501).arrival ∧
    patientService.Answers (visitAfter 1501)
      (patientService.windowsAfter ∅ [visitAfter 0, visitAfter 500])
      fun res => res.status = 429 := by
  have hnext : IsNext (visitAfter 500) [] (visitAfter 1501) :=
    ⟨rfl, by decide, List.forall_mem_nil _⟩
  have hbefore : ∀ q ∈ [visitAfter 0], q.arrival ≤ (visitAfter 500).arrival := by decide
  refine ⟨fun σ answer x => ?_, hnext, by decide, ?_⟩
  · obtain ⟨res, y, hrun, hiff⟩ := answers_status_iff patientService (visitAfter 500) _ σ answer x
    exact ⟨res, y, hrun, hiff.2 ⟨_, receive_visitAfter⟩, values_retryAfter receive_visitAfter hrun⟩
  · refine (answers_status_iff _ (visitAfter 1501) _).imp fun res hiff => hiff.2 ?_
    exact (next_is_limited_iff (by decide) hbefore receive_visitAfter hnext).2
      ⟨by decide, by decide⟩

end Api

end KnowledgeGraph
