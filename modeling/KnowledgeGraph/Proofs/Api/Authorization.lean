import KnowledgeGraph.Proofs.Api.Passage
import KnowledgeGraph.Proofs.Token.Acceptance

/-!
# Authorization

What stands behind the service is only asked for a request to a secured endpoint if the limit of its
client has room for it and its first authorization names a token that holds at that moment. The
endpoint then learns of the claims of this token and of no others.
-/

namespace KnowledgeGraph

open Http

-- ---------------------------------------------------------------------------
-- The value of an authorization header
-- ---------------------------------------------------------------------------

namespace Token

theorem scheme_of_bearer? (h : bearer? value = some token) :
    ∃ scheme rest, (scheme = "Bearer " ∨ scheme = "bearer ") ∧ value = scheme ++ rest ∧
      token = Text.trim rest := by
  rw [bearer?, Option.orElse_eq_orElse, Option.orElse_eq_or, Option.bind_eq_bind] at h
  obtain ⟨rest, hrest, htrim⟩ := Option.bind_eq_some_iff.1 h
  rcases Option.or_eq_some_iff.1 hrest with hrest | ⟨-, hrest⟩
  · exact ⟨_, rest, .inl rfl, Text.stripLead?_eq_some_iff.1 hrest, Text.trim_of_trimmed? htrim⟩
  · exact ⟨_, rest, .inr rfl, Text.stripLead?_eq_some_iff.1 hrest, Text.trim_of_trimmed? htrim⟩

theorem validateHeader_eq_ok_iff {a : Authority} : a.validateHeader now value = .ok claims ↔
    ∃ scheme rest, (scheme = "Bearer " ∨ scheme = "bearer ") ∧ value = scheme ++ rest ∧
      a.validate now (Text.trim rest) = .ok claims := by
  constructor
  · intro h
    cases hbearer : bearer? value with
    | none => simp [Authority.validateHeader, hbearer] at h
    | some token =>
      rw [Authority.validateHeader, hbearer] at h
      obtain ⟨scheme, rest, hscheme, hvalue, rfl⟩ := scheme_of_bearer? hbearer
      exact ⟨scheme, rest, hscheme, hvalue, h⟩
  · rintro ⟨scheme, rest, hscheme, rfl, h⟩
    -- Nothing is left of a blank token, and nothing holds of it.
    have hsome : Text.trimmed? rest = some (Text.trim rest) := by
      rw [Text.trimmed?, if_neg]
      intro hempty
      rw [String.isEmpty_iff.1 hempty] at h
      cases h
    rw [Authority.validateHeader, bearer?_append hscheme, hsome]
    exact h

end Token

namespace Api

/-- At a time, the first authorization of a request names a token that holds, with these claims. -/
def Bears (a : Token.Authority) (now : Nat) (r : Request) (claims : Token.Claims) : Prop :=
  ∃ scheme rest, (scheme = "Bearer " ∨ scheme = "bearer ") ∧
    r.headers.text? "authorization" = some (scheme ++ rest) ∧
      a.validate now (Text.trim rest) = .ok claims

-- ---------------------------------------------------------------------------
-- Secured endpoints
-- ---------------------------------------------------------------------------

theorem Endpoint.isSecure_of_ofPath? {path rest : String} (hpath : path = "/api/secure/" ++ rest)
    (h : ofPath? path = some e) : e.isSecure = true := by
  have hfixed : ∀ p ∈ fixedPaths, (Text.stripLead? p.1 "/api/secure/").isSome →
      p.2.isSecure = true := by decide +kernel
  rw [ofPath?, Option.orElse_eq_or] at h
  rcases Option.or_eq_some_iff.1 h with h | ⟨-, h⟩
  · obtain ⟨before, after, hmem, -⟩ := List.lookup_eq_some_iff.1 h
    refine hfixed (path, e) (hmem ▸ List.mem_append_cons_self) ?_
    simp [hpath, Text.stripLead?_append]
  · obtain ⟨name, -, rfl⟩ := Option.map_eq_some_iff.1 h
    rfl

theorem Endpoint.not_accepts_options (e : Endpoint) : e.accepts "OPTIONS" = false := by
  unfold accepts
  cases e.verb <;> rfl

section
variable {answer : (c : Call) → σ → c.Answer × σ} {s : Service} {r : Request} {e : Endpoint}

theorem endpoint_isSecure {rest : String} (hpath : r.path = "/api/secure/" ++ rest)
    (he : s.endpoint? r.path = some e) : e.isSecure = true :=
  Endpoint.isSecure_of_ofPath? hpath (Option.filter_eq_some_iff.1 he).1

theorem dispatch_of_isSecure (he : s.endpoint? r.path = some e) (hsecure : e.isSecure = true) :
    s.dispatch r = do
      match ← s.authorize r with
      | some claims => s.visit e ⟨r, some claims⟩
      | none => return unauthorized := by
  unfold Service.dispatch
  rw [he]
  exact if_pos hsecure

-- ---------------------------------------------------------------------------
-- Asking for the token
-- ---------------------------------------------------------------------------

theorem only_authorize (s : Service) (r : Request) :
    (s.authorize r).Only fun c => ¬ c.IsBackend := by
  unfold Service.authorize
  split
  · exact Workflow.only_bind (Workflow.only_count id) fun _ => Workflow.only_pure _
  · refine Workflow.only_bind (.ask id fun _ => .done _) fun now => ?_
    split
    · exact Workflow.only_pure _
    · exact Workflow.only_bind (Workflow.only_count id) fun _ => Workflow.only_pure _

theorem authorize_of_text? (h : r.headers.text? "authorization" = some value) :
    s.authorize r = do
      match s.tokens.validateHeader (← Workflow.now) value with
      | .ok claims => return some claims
      | .error _ =>
        Workflow.count (.authorizationRefused "invalid")
        return none := by
  unfold Service.authorize
  split
  · next hnone => cases hnone.symm.trans h
  · next hfound =>
    cases hfound.symm.trans h
    rfl

theorem run_authorize_of_bears (hnow : answer .now y = (now, z))
    (h : Bears s.tokens now r claims) :
    (s.authorize r).run answer y = (.ok (some claims), z) ∧
      (s.authorize r).turns answer y = [⟨.now, now⟩] := by
  obtain ⟨scheme, rest, hscheme, hvalue, htoken⟩ := h
  have hvalid := Token.validateHeader_eq_ok_iff.2 ⟨scheme, rest, hscheme, rfl, htoken⟩
  obtain ⟨hread, hturns⟩ := Workflow.run_now hnow
  rw [authorize_of_text? hvalue, Workflow.run_bind_of_ok hread, Workflow.turns_bind_of_ok hread,
    hturns, hvalid]
  exact ⟨rfl, rfl⟩

theorem run_authorize_of_not_bears (hnow : answer .now y = (now, z))
    (h : ∀ claims, ¬ Bears s.tokens now r claims) :
    ∃ z', (s.authorize r).run answer y = (.ok none, z') := by
  cases hvalue : r.headers.text? "authorization" with
  | none =>
    rw [Service.authorize, hvalue]
    exact ⟨_, rfl⟩
  | some value =>
    rw [authorize_of_text? hvalue, Workflow.run_bind_of_ok (Workflow.run_now hnow).1]
    cases hvalid : s.tokens.validateHeader now value with
    | error e => exact ⟨_, rfl⟩
    | ok claims =>
      obtain ⟨scheme, rest, hscheme, rfl, htoken⟩ := Token.validateHeader_eq_ok_iff.1 hvalid
      exact absurd ⟨scheme, rest, hscheme, hvalue, htoken⟩ (h claims)

-- ---------------------------------------------------------------------------
-- What the endpoint learns
-- ---------------------------------------------------------------------------

theorem run_dispatch_of_not_bears (he : s.endpoint? r.path = some e) (hsecure : e.isSecure = true)
    (hnow : answer .now y = (now, z)) (h : ∀ claims, ¬ Bears s.tokens now r claims) :
    ∃ z', (s.dispatch r).run answer y = (.ok unauthorized, z') ∧
      (s.dispatch r).turns answer y = (s.authorize r).turns answer y := by
  obtain ⟨z', hrun⟩ := run_authorize_of_not_bears hnow h
  rw [dispatch_of_isSecure he hsecure, Workflow.run_bind_of_ok hrun,
    Workflow.turns_bind_of_ok hrun]
  exact ⟨z', rfl, List.append_nil _⟩

theorem run_dispatch_of_bears (he : s.endpoint? r.path = some e) (hsecure : e.isSecure = true)
    (hnow : answer .now y = (now, z)) (h : Bears s.tokens now r claims) :
    (s.dispatch r).run answer y = (s.visit e ⟨r, some claims⟩).run answer z ∧
      (s.dispatch r).turns answer y =
        ⟨.now, now⟩ :: (s.visit e ⟨r, some claims⟩).turns answer z := by
  obtain ⟨hrun, hturns⟩ := run_authorize_of_bears hnow h
  rw [dispatch_of_isSecure he hsecure, Workflow.run_bind_of_ok hrun,
    Workflow.turns_bind_of_ok hrun, hturns]
  exact ⟨rfl, rfl⟩

/-- An answer to a request that got no further than to the door of an endpoint: nothing behind the
service was called. -/
def IsRefusal (s : Service) (r : Request) (e : Endpoint) (turns : List Turn) (res : Response) :
    Prop :=
  (∀ turn ∈ turns, ¬ turn.call.IsBackend) ∧
    (res.status = 429 ∨ res.status = 401 ∨ (res.status = 405 ∧ e.accepts r.method = false) ∨
      (r.method = "OPTIONS" ∧ ∃ id, res = s.dress r id (preflight s.origins r)))

theorem isRefusal_of_run_reply (hid : answer (.entropy idEntropy) x = (bytes, y))
    (hreply : (s.reply r a).run answer y = (.ok res, z))
    (hquiet : ∀ turn ∈ (s.reply r a).turns answer y, ¬ turn.call.IsBackend)
    (hres : res.status = 429 ∨ res.status = 401 ∨ (res.status = 405 ∧ e.accepts r.method = false) ∨
      (r.method = "OPTIONS" ∧ res = preflight s.origins r)) :
    ∃ res' x', (s.track r a).run answer x = (.ok res', x') ∧
      IsRefusal s r e ((s.track r a).turns answer x) res' := by
  refine ⟨_, _, run_track hid hreply, ?_, ?_⟩
  · rw [turns_track hid hreply]
    refine List.forall_mem_append.2 ⟨List.forall_mem_cons.2 ⟨id, hquiet⟩, ?_⟩
    exact List.forall_mem_singleton.2 id
  · rw [status_dress]
    exact hres.imp_right (Or.imp_right (Or.imp_right fun h => ⟨h.1, _, congrArg _ h.2⟩))

theorem isRefusal_of_dispatch (he : s.endpoint? r.path = some e) (hsecure : e.isSecure = true)
    (hid : answer (.entropy idEntropy) x = (bytes, y)) (hnow : answer .now y = (now, z))
    (h : (∀ claims, ¬ Bears s.tokens now r claims) ∨ e.accepts r.method = false) :
    ∃ res x', (s.track r .admitted).run answer x = (.ok res, x') ∧
      IsRefusal s r e ((s.track r .admitted).turns answer x) res := by
  by_cases hbears : ∃ claims, Bears s.tokens now r claims
  · obtain ⟨claims, hbears⟩ := hbears
    have haccepts := h.resolve_left fun hnot => hnot claims hbears
    obtain ⟨hrun, hturns⟩ := run_dispatch_of_bears he hsecure hnow hbears
    rw [Service.visit, haccepts] at hrun hturns
    refine isRefusal_of_run_reply hid (run_reply_admitted hrun) ?_ (.inr (.inr (.inl ?_)))
    · rw [turns_reply_admitted hrun, hturns]
      exact List.forall_mem_singleton.2 id
    · exact ⟨by simp [Response.ofStatus], haccepts⟩
  · obtain ⟨z', hrun, hturns⟩ :=
      run_dispatch_of_not_bears he hsecure hnow fun claims hb => hbears ⟨claims, hb⟩
    refine isRefusal_of_run_reply hid (run_reply_admitted hrun) ?_ (.inr (.inl ?_))
    · rw [turns_reply_admitted hrun, hturns]
      exact Workflow.forall_mem_turns_of_only (only_authorize s r) y
    · simp [unauthorized, Response.ofError, Response.ofJson, Error.status]

end

/-- A request to a secured endpoint beyond the limit of its client, or without a token that holds
when the clock is read, or with a method that the endpoint does not accept, is refused before
anything behind the service is called. Any other is answered by the endpoint with the claims of the
token that it names, and with nothing asked of the world beside. -/
theorem secured_endpoints_need_a_token (s : Service) (r : Request) (ws : Traffic.Windows)
    {rest : String} (hpath : r.path = "/api/secure/" ++ rest) (he : s.endpoint? r.path = some e)
    {answer : (c : Call) → σ → c.Answer × σ} (hid : answer (.entropy idEntropy) x = (bytes, y))
    (hnow : answer .now y = (now, z)) :
    ((s.limits.check (client r) r.arrival ws).1.isAllowed = false ∨
        (∀ claims, ¬ Bears s.tokens now r claims) ∨ e.accepts r.method = false →
      ∃ res x', (s.handle r ws).1.run answer x = (.ok res, x') ∧
        IsRefusal s r e ((s.handle r ws).1.turns answer x) res) ∧
    ∀ claims, (s.limits.check (client r) r.arrival ws).1.isAllowed = true →
      Bears s.tokens now r claims → e.accepts r.method = true →
      ∃ res z' x', (s.answer ⟨r, some claims⟩ e).run answer z = (.ok res, z') ∧
        (s.handle r ws).1.run answer x =
          (.ok (s.dress r (requestId r bytes) (share s.origins r (protect res))), x') ∧
        (s.handle r ws).1.turns answer x =
          ⟨.entropy idEntropy, bytes⟩ :: ⟨.now, now⟩ ::
            (s.answer ⟨r, some claims⟩ e).turns answer z ++
              [⟨.count (.answered r.method res.status), ()⟩] := by
  have hsecure := endpoint_isSecure hpath he
  have hhandle : (s.handle r ws).1 = s.track r (s.receive r ws).1 := rfl
  constructor
  · intro h
    rcases s.receive_cases r ws with ⟨hmethod, ha⟩ | ⟨-, -, ⟨-, after, ha⟩ | ⟨hroom, ha⟩⟩
    · have hreply : (s.reply r .preflight).run answer y = (.ok (preflight s.origins r), y) := rfl
      rw [hhandle, ha]
      exact isRefusal_of_run_reply hid hreply (List.forall_mem_nil _)
        (.inr (.inr (.inr ⟨hmethod, rfl⟩)))
    · have hreply : (s.reply r (.limited after)).run answer y =
          (.ok (share s.origins r (protect (tooMany after))), (answer (.count .rateLimited) y).2) :=
        rfl
      rw [hhandle, ha]
      exact isRefusal_of_run_reply hid hreply (List.forall_mem_singleton.2 id)
        (.inl (by simp [tooMany, Response.ofJson]))
    · rw [hhandle, ha]
      exact isRefusal_of_dispatch he hsecure hid hnow (h.resolve_left (by simp [hroom]))
  · intro claims hroom hbears haccepts
    rcases s.receive_cases r ws with ⟨hmethod, -⟩ | ⟨-, -, ⟨hfull, -⟩ | ⟨-, ha⟩⟩
    -- Who is admitted and bears a token meets neither of the first two cases.
    · rw [hmethod, e.not_accepts_options] at haccepts
      cases haccepts
    · rw [hroom] at hfull
      cases hfull
    · obtain ⟨res, z', hres⟩ := (failsOnly_answer s ⟨r, some claims⟩ e).exists_of_run answer z
      obtain ⟨hrun, hturns⟩ := run_dispatch_of_bears he hsecure hnow hbears
      rw [Service.visit, if_pos haccepts] at hrun hturns
      have hdispatch := hrun.trans hres
      have hreply := run_reply_admitted hdispatch
      rw [hhandle, ha]
      refine ⟨res, z', _, hres, run_track hid hreply, ?_⟩
      rw [turns_track hid hreply, turns_reply_admitted hdispatch, hturns, status_share,
        status_protect]

def visitOfAda : Request where
  method := "GET"
  target := "/api/secure/profile/user-profile/ada?depth=1"
  headers := [("authorization", Text.Utf8.bytes "Basic YWRhOmFkYQ==")]
  body := .empty
  peer := none
  arrival := 0

theorem ada_is_refused_without_a_token :
    (∃ rest, visitOfAda.path = "/api/secure/" ++ rest) ∧
      strictService.endpoint? visitOfAda.path = some (.profile "ada") ∧
      ∃ res x', (strictService.handle visitOfAda ∅).1.run
          (storeAlone fun _ (s : Unit) => ([], s)) () = (.ok res, x') ∧
        IsRefusal strictService visitOfAda (.profile "ada")
          ((strictService.handle visitOfAda ∅).1.turns
            (storeAlone fun _ (s : Unit) => ([], s)) ()) res := by
  have hpath : visitOfAda.path = "/api/secure/" ++ "profile/user-profile/ada" := by decide +kernel
  have he : strictService.endpoint? visitOfAda.path = some (.profile "ada") := by decide +kernel
  refine ⟨⟨_, hpath⟩, he, ?_⟩
  refine (secured_endpoints_need_a_token strictService visitOfAda ∅ hpath he rfl rfl).1
    (.inr (.inl ?_))
  rintro claims ⟨scheme, rest, hscheme, hvalue, -⟩
  have hbasic : visitOfAda.headers.text? "authorization" = some "Basic YWRhOmFkYQ==" := by
    decide +kernel
  have hvalue := congrArg (Option.map (·.toList.take 2)) (hbasic.symm.trans hvalue)
  rcases hscheme with rfl | rfl <;> simp at hvalue

end Api

end KnowledgeGraph
