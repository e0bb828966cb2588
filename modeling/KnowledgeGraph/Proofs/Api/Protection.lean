import KnowledgeGraph.Proofs.Api.Passage
import KnowledgeGraph.Proofs.Http.Headers

/-!
# What every answer carries

Every answer carries the id of its request. It tells browsers to take no liberties with it, and its
request was counted, exactly if the request was not one that asks beforehand.
-/

namespace KnowledgeGraph.Api

open Http

/-- Each protective header has its one value. -/
def IsProtected (res : Response) : Prop :=
  ∀ p ∈ protectiveHeaders, res.headers.values p.1 = [Text.Utf8.bytes p.2]

/-- No protective header has a value. -/
def IsBare (res : Response) : Prop := ∀ p ∈ protectiveHeaders, res.headers.values p.1 = []

theorem IsBare.not_isProtected (h : IsBare res) : ¬ IsProtected res := by
  intro hp
  have hmem : ("x-frame-options", "DENY") ∈ protectiveHeaders := by decide
  have := (h _ hmem).symm.trans (hp _ hmem)
  cases this

-- ---------------------------------------------------------------------------
-- Values on their way back
-- ---------------------------------------------------------------------------

theorem isProtected_protect (res : Response) : IsProtected (protect res) := by
  simp [IsProtected, protect, protectiveHeaders, Response.values_withText_self,
    Response.values_withText_of_ne]

/-- The headers that say with whom an answer may be shared. -/
def sharingHeaders : List String :=
  ["access-control-allow-credentials", "vary", "access-control-allow-origin",
   "access-control-allow-methods", "access-control-allow-headers"]

theorem values_share {name : String} (h : name ∉ sharingHeaders) (origins : List String)
    (r : Request) (res : Response) :
    (share origins r res).headers.values name = res.headers.values name := by
  simp only [sharingHeaders, List.mem_cons, List.not_mem_nil, or_false, not_or] at h
  obtain ⟨hcredentials, hvary, horigin, -, -⟩ := h
  have hkept : (((res.withText "access-control-allow-credentials" "true").withText "vary"
      "origin, access-control-request-method, access-control-request-headers").headers.values
        name) = res.headers.values name := by
    rw [Response.values_withText_of_ne hvary, Response.values_withText_of_ne hcredentials]
  unfold share
  dsimp only
  split
  · exact (Headers.values_set_of_ne horigin ..).trans hkept
  · exact hkept

theorem values_preflight {name : String} (h : name ∉ sharingHeaders) (origins : List String)
    (r : Request) : (preflight origins r).headers.values name = [] := by
  have hshare := values_share h origins r (.ofStatus 200)
  simp only [sharingHeaders, List.mem_cons, List.not_mem_nil, or_false, not_or] at h
  obtain ⟨-, -, -, hmethods, hheaders⟩ := h
  rw [preflight, Response.values_withText_of_ne hheaders, Response.values_withText_of_ne hmethods,
    hshare]
  rfl

section
variable (s : Service) (r : Request) (res : Response)

theorem values_withMethods {name : String} (h : name ≠ "allow") :
    (s.withMethods r res).headers.values name = res.headers.values name := by
  unfold Service.withMethods
  split
  · split
    · rfl
    · exact Response.values_withText_of_ne h ..
  · rfl

theorem values_dress {name : String} (hallow : name ≠ "allow") (hid : name ≠ idHeader)
    (id : String) : (s.dress r id res).headers.values name = res.headers.values name := by
  rw [Service.dress, headers_onlyHead, values_withMethods s r _ hallow,
    Response.values_withText_of_ne hid]

theorem values_dress_idHeader (id : String) :
    (s.dress r id res).headers.values idHeader = [Text.Utf8.bytes id] := by
  rw [Service.dress, headers_onlyHead, values_withMethods s r _ (by decide),
    Response.values_withText_self]

end

/-- Later headers leave the protective ones alone. -/
theorem protectiveHeaders_apart :
    ∀ p ∈ protectiveHeaders, p.1 ∉ sharingHeaders ∧ p.1 ≠ "allow" ∧ p.1 ≠ idHeader := by decide

theorem IsProtected.dress (h : IsProtected res) (s : Service) (r : Request) (id : String) :
    IsProtected (s.dress r id res) := by
  intro p hp
  obtain ⟨-, hallow, hid⟩ := protectiveHeaders_apart p hp
  rw [values_dress s r res hallow hid, h p hp]

theorem IsProtected.share (h : IsProtected res) (origins : List String) (r : Request) :
    IsProtected (share origins r res) := by
  intro p hp
  rw [values_share (protectiveHeaders_apart p hp).1, h p hp]

theorem isBare_dress_preflight (s : Service) (r : Request) (id : String) :
    IsBare (s.dress r id (preflight s.origins r)) := by
  intro p hp
  obtain ⟨hsharing, hallow, hid⟩ := protectiveHeaders_apart p hp
  rw [values_dress s r _ hallow hid, values_preflight hsharing]

-- ---------------------------------------------------------------------------
-- Answers
-- ---------------------------------------------------------------------------

section
variable {answer : (c : Call) → σ → c.Answer × σ} {s : Service} {r : Request}

theorem isProtected_of_run_reply (ha : a ≠ .preflight)
    (h : (s.reply r a).run answer y = (.ok res, z)) : IsProtected res := by
  cases a with
  | preflight => exact absurd rfl ha
  | limited after =>
    obtain ⟨hres, -⟩ := Prod.mk.inj h
    cases hres
    exact (isProtected_protect _).share _ _
  | admitted =>
    obtain ⟨inner, z', hinner⟩ := (failsOnly_dispatch s r).exists_of_run answer y
    cases (run_reply_admitted hinner).symm.trans h
    exact (isProtected_protect _).share _ _

end

/-- Every answer carries one id, that may be sent. It carries the protective headers, and its
request was counted for its client, unless the request only asks beforehand: then it carries none of
them, and nobody's windows change. -/
theorem answers_are_protected_iff (s : Service) (r : Request) (ws : Traffic.Windows)
    (answer : (c : Call) → σ → c.Answer × σ) (x : σ) :
    ∃ res y id, (s.handle r ws).1.run answer x = (.ok res, y) ∧
      isAcceptableId id = true ∧ res.headers.values idHeader = [Text.Utf8.bytes id] ∧
      (IsProtected res ∧ (s.handle r ws).2 = (s.limits.check (client r) r.arrival ws).2 ↔
        r.method ≠ "OPTIONS") ∧
      (r.method = "OPTIONS" → IsBare res ∧ (s.handle r ws).2 = ws) := by
  obtain ⟨res, z, hreply, hrun⟩ := exists_run_track s r (s.receive r ws).1 answer x
  refine ⟨_, _, _, hrun, isAcceptableId_requestId .., values_dress_idHeader .., ?_⟩
  rcases s.receive_cases r ws with ⟨hmethod, hdoor⟩ | ⟨hmethod, hws, hdoor⟩
  · rw [hdoor] at hreply
    obtain ⟨hres, -⟩ := Prod.mk.inj hreply
    cases hres
    have hbare := isBare_dress_preflight s r
    exact ⟨⟨fun h => absurd h.1 (hbare _).not_isProtected, fun h => absurd hmethod h⟩,
      fun _ => ⟨hbare _, congrArg Prod.snd hdoor⟩⟩
  · have ha : (s.receive r ws).1 ≠ .preflight := by
      rcases hdoor with ⟨-, after, ha⟩ | ⟨-, ha⟩ <;> simp [ha]
    have hprotected := (isProtected_of_run_reply ha hreply).dress s r
    exact ⟨⟨fun _ => hmethod, fun _ => ⟨hprotected _, hws⟩⟩, fun h => absurd h hmethod⟩

def askingBeforehand : Request := ⟨"OPTIONS", "/api", [], .empty, none, 0⟩

theorem asking_beforehand_is_bare_and_uncounted :
    ∃ res y, (strictService.handle askingBeforehand ∅).1.run
        (storeAlone fun _ (s : Unit) => ([], s)) () = (.ok res, y) ∧
      ¬ IsProtected res ∧
      (strictService.handle askingBeforehand ∅).2 ≠
        (strictService.limits.check (client askingBeforehand) askingBeforehand.arrival ∅).2 := by
  refine ⟨_, _, rfl, (isBare_dress_preflight strictService askingBeforehand _).not_isProtected, ?_⟩
  intro h
  have hwindow := congrArg (·[client askingBeforehand]?) h
  simp only [Traffic.Limits.getElem?_check_self] at hwindow
  exact absurd hwindow (by simp [Service.handle, Service.receive, isPreflight, askingBeforehand])

end KnowledgeGraph.Api
