import KnowledgeGraph.Proofs.Api.Authorization
import KnowledgeGraph.Proofs.Http.Headers

/-!
# The form of errors

An error is told as a JSON object with a message under `error`. Every error of an operation is, and
so is what keeps a request from its endpoint. Three reasons not to answer are told in plain text
instead: an upload that says of no form in parts where its parts end, a name in a path whose
escapes are of no text, and an object whose type may not stand in a header.
-/

namespace KnowledgeGraph

open Http Traffic.Limits

-- ---------------------------------------------------------------------------
-- Bodies that tell an error
-- ---------------------------------------------------------------------------

namespace Http

/-- A JSON object with a text under `error`. -/
def Body.IsEnvelope (b : Body) : Prop :=
  ∃ ms message, b.toBytes = Text.Utf8.bytes (Json.obj ms).text ∧
    Json.Members.get? "error" ms = some (.str message)

/-- If the response is an error, its body tells so in the one form. -/
def Response.TellsErrors (res : Response) : Prop := 400 ≤ res.status → res.body.IsEnvelope

theorem Body.isEnvelope_obj {ms : Json.Members}
    (h : Json.Members.get? "error" ms = some (.str message)) : (Body.json (.obj ms)).IsEnvelope :=
  ⟨ms, message, rfl, h⟩

theorem head?_bytes_obj (ms : Json.Members) :
    (Text.Utf8.bytes (Json.obj ms).text).head? = some 0x7B := by
  rw [Json.text, Text.Utf8.bytes_ofList]
  cases ms <;> rfl

theorem Body.not_isEnvelope_of_head? {b : Body} (h : b.toBytes.head? ≠ some 0x7B) :
    ¬ b.IsEnvelope := by
  rintro ⟨ms, message, hbytes, -⟩
  rw [hbytes] at h
  exact h (head?_bytes_obj ms)

theorem Body.not_isEnvelope_empty : ¬ Body.empty.IsEnvelope :=
  not_isEnvelope_of_head? (by simp [toBytes])

theorem Response.tellsErrors_of_status {res : Response} (h : res.status < 400) :
    res.TellsErrors := fun hstatus => absurd h (Nat.not_lt.2 hstatus)

theorem Response.tellsErrors_ofError (e : Error) : (ofError e).TellsErrors := by
  intro _
  cases e <;> exact Body.isEnvelope_obj rfl

theorem Response.not_tellsErrors_ofText {status : Nat} {text : String} (hstatus : 400 ≤ status)
    (h : (Text.Utf8.bytes text).head? ≠ some 0x7B) : ¬ (ofText status text).TellsErrors :=
  fun htells => Body.not_isEnvelope_of_head? (b := .text text) h (htells hstatus)

theorem Response.tellsErrors_congr {res res' : Response} (hstatus : res'.status = res.status)
    (hbody : res'.body = res.body) : res'.TellsErrors ↔ res.TellsErrors := by
  unfold TellsErrors
  rw [hstatus, hbody]

end Http

def Turn.object? : Turn → Option Asset.Object
  | ⟨.get _ _, .ok found⟩ => found
  | _ => none

namespace Api

-- ---------------------------------------------------------------------------
-- On the way back
-- ---------------------------------------------------------------------------

section
variable (s : Service) (r : Request) (res : Response)

theorem body_share : (share s.origins r res).body = res.body := by
  unfold share
  dsimp only
  split <;> rfl

theorem tellsErrors_share_protect :
    (share s.origins r (protect res)).TellsErrors ↔ res.TellsErrors :=
  Response.tellsErrors_congr (by simp) ((body_share s r _).trans rfl)

theorem tellsErrors_dress_iff (id : String) : (s.dress r id res).TellsErrors ↔
    res.TellsErrors ∧ (r.method = "HEAD" → res.status < 400) := by
  by_cases hhead : r.method = "HEAD"
  · have hbody : (s.dress r id res).body = .empty := by rw [Service.dress, onlyHead, if_pos hhead]
    rw [Response.TellsErrors, hbody, status_dress]
    refine ⟨fun h => ?_, fun h hstatus => absurd (h.2 hhead) (Nat.not_lt.2 hstatus)⟩
    have hstatus : res.status < 400 :=
      Nat.lt_of_not_le fun hstatus => Body.not_isEnvelope_empty (h hstatus)
    exact ⟨Response.tellsErrors_of_status hstatus, fun _ => hstatus⟩
  · have hbody : (s.dress r id res).body = res.body := by
      rw [Service.dress, onlyHead, if_neg hhead, body_withMethods]
      rfl
    rw [Response.tellsErrors_congr (status_dress s r id res) hbody]
    exact ⟨fun h => ⟨h, fun hmethod => absurd hmethod hhead⟩, fun h => h.1⟩

end

-- ---------------------------------------------------------------------------
-- What an operation comes to
-- ---------------------------------------------------------------------------

section
variable {answer : (c : Call) → σ → c.Answer × σ}

theorem tellsErrors_respond {operation : Workflow α} {encode : α → Response}
    (hencode : ∀ a, (encode a).TellsErrors)
    (h : ((respond operation encode).run answer z).1 = .ok res) : res.TellsErrors := by
  rw [run_respond] at h
  cases hrun : (operation.run answer z).1 with
  | ok a =>
    simp only [hrun, Except.ok.injEq] at h
    exact h ▸ hencode a
  | error e =>
    simp only [hrun, Except.ok.injEq] at h
    exact h ▸ Response.tellsErrors_ofError e

theorem tellsErrors_found (j : Json) : (found j).TellsErrors :=
  Response.tellsErrors_of_status (show 200 < 400 by decide)

-- ---------------------------------------------------------------------------
-- What an endpoint answers
-- ---------------------------------------------------------------------------

/-- An endpoint has a reason not to answer a request that is told in plain text. -/
inductive IsPlain (r : Request) (brought : List Asset.Object) : Endpoint → Prop where
  | form : readQuery Asset.Location r = .ok location → boundary? r = none →
      IsPlain r brought .keepObject
  | name : readSegment name = none → IsPlain r brought (.profile name)
  | type : o ∈ brought → isLegalValue (Text.Utf8.bytes o.contentType) = false →
      IsPlain r brought .readObject

theorem brought_answerError (e : Error) (x : σ) :
    ((answerError e).turns answer x).filterMap Turn.object? = [] := by
  cases e <;> rfl

theorem brought_respond (operation : Workflow α) (encode : α → Response) (x : σ) :
    ((respond operation encode).turns answer x).filterMap Turn.object? =
      (operation.turns answer x).filterMap Turn.object? := by
  rw [respond, Workflow.turns_bind, Workflow.turns_attempt, Workflow.run_attempt,
    List.filterMap_append]
  cases (operation.run answer x).1 with
  | ok a => exact List.append_nil _
  | error e => exact (congrArg _ (brought_answerError e _)).trans (List.append_nil _)

theorem brought_fetch (defaultBucket bucket key : Option String) (x : σ) :
    ((Asset.fetch defaultBucket bucket key).turns answer x).filterMap Turn.object? =
      ((Asset.fetch defaultBucket bucket key).run answer x).1.toOption.toList := by
  rw [Asset.fetch]
  cases Asset.resolve defaultBucket bucket key with
  | error e => rfl
  | ok place =>
    obtain ⟨bucket, key⟩ := place
    show List.filterMap _ (Workflow.turns answer (Workflow.get bucket key) x) =
      ((Workflow.get bucket key).run answer x).1.toOption.toList
    simp only [Workflow.get, Workflow.turns, Workflow.run]
    rcases (answer (.get bucket key) x).1 with failure | _ | o <;> rfl

theorem tellsErrors_objectResponse_iff (o : Asset.Object) : (objectResponse o).TellsErrors ↔
    isLegalValue (Text.Utf8.bytes o.contentType) = true := by
  unfold objectResponse
  split
  · next hlegal => exact iff_of_true (Response.tellsErrors_of_status (by simp)) hlegal
  · next hlegal =>
    exact iff_of_false (Response.not_tellsErrors_ofText (by decide) (by decide +kernel)) hlegal

/-- An operation brings the object that it comes to, and no other. -/
theorem brought_of_location (s : Service) (location : Except Error Asset.Location) (x : σ) :
    let operation : Workflow Asset.Object := do
      let l ← location
      Asset.fetch s.bucket l.bucket l.key
    (operation.turns answer x).filterMap Turn.object? =
      (operation.run answer x).1.toOption.toList := by
  cases location with
  | error e => rfl
  | ok l => exact brought_fetch s.bucket l.bucket l.key x

theorem isPlain_readObject_iff : IsPlain r brought .readObject ↔
    ∃ o ∈ brought, isLegalValue (Text.Utf8.bytes o.contentType) = false := by
  constructor
  · intro h
    cases h with
    | type ho hillegal => exact ⟨_, ho, hillegal⟩
  · rintro ⟨o, ho, hillegal⟩
    exact .type ho hillegal

theorem tellsErrors_readObject_iff (s : Service) (v : Visit)
    (h : ((s.answer v .readObject).run answer z).1 = .ok res) : res.TellsErrors ↔
      ¬ IsPlain v.request (((s.answer v .readObject).turns answer z).filterMap Turn.object?)
        .readObject := by
  rw [Service.answer, ofQuery] at h ⊢
  rw [run_respond] at h
  rw [brought_respond, brought_of_location, isPlain_readObject_iff]
  split at h
  · next o ho =>
    cases h
    rw [ho, tellsErrors_objectResponse_iff]
    simp [Except.toOption]
  · next e he =>
    cases h
    rw [he]
    exact iff_of_true (Response.tellsErrors_ofError e) (by simp [Except.toOption])

theorem tellsErrors_answerUpload_iff (s : Service) (r : Request) (brought : List Asset.Object)
    (h : ((answerUpload s r).run answer z).1 = .ok res) :
    res.TellsErrors ↔ ¬ IsPlain r brought .keepObject := by
  unfold answerUpload at h
  split at h
  · next e he =>
    rw [run_answerError] at h
    cases h
    refine iff_of_true (Response.tellsErrors_ofError e) ?_
    intro hplain
    cases hplain with
    | form hquery _ => cases he.symm.trans hquery
  · next location hquery =>
    split at h
    · next hboundary =>
      cases h
      refine iff_of_false (Response.not_tellsErrors_ofText (by decide) (by decide +kernel)) ?_
      exact fun hnot => hnot (.form hquery hboundary)
    · next boundary hboundary =>
      refine iff_of_true (tellsErrors_respond (fun _ => tellsErrors_found _) h) ?_
      intro hplain
      cases hplain with
      | form _ hnone => cases hboundary.symm.trans hnone

theorem tellsErrors_answerProfile_iff (r : Request) (brought : List Asset.Object) (name : String)
    (h : ((answerProfile name).run answer z).1 = .ok res) :
    res.TellsErrors ↔ ¬ IsPlain r brought (.profile name) := by
  unfold answerProfile at h
  split at h
  · next username hname =>
    refine iff_of_true (tellsErrors_respond (fun _ => tellsErrors_found _) h) ?_
    intro hplain
    cases hplain with
    | name hnone => cases hname.symm.trans hnone
  · next hname =>
    cases h
    refine iff_of_false (Response.not_tellsErrors_ofText (by decide) (by decide +kernel)) ?_
    exact fun hnot => hnot (.name hname)

theorem tellsErrors_answer_iff (s : Service) (v : Visit) (e : Endpoint)
    (h : ((s.answer v e).run answer z).1 = .ok res) : res.TellsErrors ↔
      ¬ IsPlain v.request (((s.answer v e).turns answer z).filterMap Turn.object?) e := by
  cases e with
  | root =>
    cases h
    exact iff_of_true (tellsErrors_found _) fun hplain => by cases hplain
  | health =>
    rw [Service.answer, answerHealth, Workflow.run_bind, Workflow.run_attempt] at h
    cases h
    exact iff_of_true (tellsErrors_found _) fun hplain => by cases hplain
  | metrics =>
    cases h
    exact iff_of_true (Response.tellsErrors_of_status (by simp)) fun hplain => by cases hplain
  | readObject => exact tellsErrors_readObject_iff s v h
  | keepObject => exact tellsErrors_answerUpload_iff s v.request _ h
  | profile name => exact tellsErrors_answerProfile_iff v.request _ name h
  | _ =>
    refine iff_of_true (tellsErrors_respond (fun _ => Response.tellsErrors_of_status ?_) h)
      fun hplain => by cases hplain
    simp [recorded, created, found, Response.ofJson]

-- ---------------------------------------------------------------------------
-- From the door to the answer
-- ---------------------------------------------------------------------------

/-- The limit of its client has room for a request, and at a time it bears a token that holds. -/
def Service.LetsThrough (s : Service) (r : Request) (ws : Traffic.Windows) (now : Nat) : Prop :=
  (s.limits.check (client r) r.arrival ws).1.isAllowed = true ∧
    ∃ claims, Bears s.tokens now r claims

theorem IsPlain.isSecure (h : IsPlain r brought e) : e.isSecure = true := by
  cases h <;> rfl

variable {s : Service} {r : Request}

theorem tellsErrors_dispatch_iff (he : s.endpoint? r.path = some e)
    (hmethod : e.accepts r.method = true) (hnow : answer .now y = (now, z))
    (h : ((s.dispatch r).run answer y).1 = .ok res) : res.TellsErrors ↔
      ¬ ((∃ claims, Bears s.tokens now r claims) ∧
        IsPlain r (((s.dispatch r).turns answer y).filterMap Turn.object?) e) := by
  have hvisit (v : Visit) (hv : v.request = r) : s.visit e v = s.answer v e := by
    rw [Service.visit, hv, if_pos hmethod]
  cases hsecure : e.isSecure with
  | false =>
    -- Only secured endpoints have a reason to answer in plain text.
    have hdispatch : s.dispatch r = s.answer ⟨r, none⟩ e := by
      rw [← hvisit _ rfl, Service.dispatch, he]
      exact if_neg (by simp [hsecure])
    rw [hdispatch] at h
    have hplain (brought : List Asset.Object) : ¬ IsPlain r brought e := fun hplain => by
      cases hsecure.symm.trans hplain.isSecure
    refine iff_of_true ((tellsErrors_answer_iff s _ e h).2 (hplain _)) fun hnot => ?_
    exact hplain _ hnot.2
  | true =>
    by_cases hbears : ∃ claims, Bears s.tokens now r claims
    · obtain ⟨claims, hclaims⟩ := hbears
      obtain ⟨hrun, hturns⟩ := run_dispatch_of_bears he hsecure hnow hclaims
      rw [hvisit _ rfl] at hrun hturns
      rw [hrun] at h
      rw [tellsErrors_answer_iff s _ e h, hturns]
      exact not_congr (and_iff_right ⟨claims, hclaims⟩).symm
    · obtain ⟨z', hrun, -⟩ :=
        run_dispatch_of_not_bears he hsecure hnow (not_exists.1 hbears)
      rw [hrun] at h
      cases h
      exact iff_of_true (Response.tellsErrors_ofError _) fun hnot => hbears hnot.1

theorem brought_track (hreply : (s.reply r a).run answer (answer (.entropy idEntropy) x).2 =
      (.ok res, y)) :
    ((s.track r a).turns answer x).filterMap Turn.object? =
      ((s.reply r a).turns answer (answer (.entropy idEntropy) x).2).filterMap Turn.object? := by
  rw [turns_track rfl hreply, List.filterMap_append]
  exact List.append_nil _

end

/-- Whatever the state of the service and of the backends, the answer to a request for an endpoint
tells an error in the one form, unless only its head was asked for, or the request was let through
and is not answered for one of the reasons told in plain text. -/
theorem answers_tell_errors_iff (s : Service) (r : Request) (ws : Traffic.Windows)
    (he : s.endpoint? r.path = some e) (hmethod : e.accepts r.method = true)
    {answer : (c : Call) → σ → c.Answer × σ} (hid : answer (.entropy idEntropy) x = (bytes, y))
    (hnow : answer .now y = (now, z)) :
    ∃ res x', (s.handle r ws).1.run answer x = (.ok res, x') ∧
      (res.TellsErrors ↔
        ¬ (s.LetsThrough r ws now ∧
            IsPlain r (((s.handle r ws).1.turns answer x).filterMap Turn.object?) e) ∧
          (r.method = "HEAD" → res.status < 400)) := by
  have hhandle : (s.handle r ws).1 = s.track r (s.receive r ws).1 := rfl
  obtain ⟨inner, x', hreply, hrun⟩ := exists_run_track s r (s.receive r ws).1 answer x
  refine ⟨_, _, hrun, ?_⟩
  rw [tellsErrors_dress_iff, status_dress, hhandle, brought_track hreply]
  refine and_congr_left fun _ => ?_
  obtain rfl : (answer (.entropy idEntropy) x).2 = y := congrArg Prod.snd hid
  rcases s.receive_cases r ws with ⟨hoptions, -⟩ | ⟨-, -, ⟨hfull, after, ha⟩ | ⟨hroom, ha⟩⟩
  · rw [hoptions, e.not_accepts_options] at hmethod
    cases hmethod
  · rw [ha] at hreply
    cases hreply
    refine iff_of_true ?_ fun hnot => ?_
    · exact (tellsErrors_share_protect s r _).2 fun _ => Body.isEnvelope_obj rfl
    · cases hfull.symm.trans hnot.1.1
  · rw [ha] at hreply ⊢
    obtain ⟨res, z', hdispatch⟩ := (failsOnly_dispatch s r).exists_of_run answer
      (answer (.entropy idEntropy) x).2
    rw [run_reply_admitted hdispatch] at hreply
    cases hreply
    rw [tellsErrors_share_protect, turns_reply_admitted hdispatch,
      tellsErrors_dispatch_iff he hmethod hnow (congrArg Prod.fst hdispatch)]
    simp only [Service.LetsThrough, hroom, true_and]

def visitOfNobody : Request where
  method := "GET"
  target := "/api/secure/profile/user-profile/%ff"
  headers := []
  body := .empty
  peer := none
  arrival := 0

theorem receive_strictService {r : Request} (h : isPreflight r = false) :
    (strictService.receive r ∅).1 = .admitted := by
  refine (Service.receive_of_not_preflight h ∅).2.2 ?_
  rw [check_fst, Std.HashMap.getElem?_empty]
  rfl

theorem nobody_is_told_in_the_one_form :
    strictService.endpoint? visitOfNobody.path = some (.profile "%ff") ∧
      (Endpoint.profile "%ff").accepts visitOfNobody.method = true ∧
      ∃ res x', (strictService.handle visitOfNobody ∅).1.run emptyStore () = (.ok res, x') ∧
        res.status = 401 ∧ res.body.IsEnvelope := by
  have he : strictService.endpoint? visitOfNobody.path = some (.profile "%ff") := by
    decide +kernel
  refine ⟨he, rfl, ?_⟩
  have hid : emptyStore (.entropy idEntropy) () = (.empty, ()) := rfl
  have hnow : emptyStore .now () = (0, ()) := rfl
  obtain ⟨res, x', hrun, htells⟩ :=
    answers_tell_errors_iff strictService visitOfNobody ∅ he rfl hid hnow
  have hstatus : res.status = 401 := by
    have htrack : (strictService.track visitOfNobody .admitted).run emptyStore () = (.ok res, x') :=
      receive_strictService (r := visitOfNobody) rfl ▸ hrun
    cases htrack
    rfl
  refine ⟨res, x', hrun, hstatus, htells.2 ⟨?_, ?_⟩ (by rw [hstatus]; decide)⟩
  · rintro ⟨⟨-, claims, scheme, rest, -, hvalue, -⟩, -⟩
    cases hvalue
  · exact fun hhead => absurd hhead (by decide)

def tokenOfAda : String := strictService.tokens.issue 0 "ada"

def uploadOfAda : Request where
  method := "POST"
  target := "/api/secure/helper/s3-upload?key=k"
  headers := [("authorization", Text.Utf8.bytes "Bearer " ++ Text.Utf8.bytes tokenOfAda)]
  body := .empty
  peer := none
  arrival := 0

theorem bears_uploadOfAda :
    Bears strictService.tokens 0 uploadOfAda (strictService.tokens.claims 0 "ada") := by
  have hvalue : uploadOfAda.headers.get? "authorization" =
      some (Text.Utf8.bytes "Bearer " ++ Text.Utf8.bytes tokenOfAda) := rfl
  have hscheme : visible? (Text.Utf8.bytes "Bearer ") = some "Bearer " := by decide +kernel
  have hvisible : visible? (Text.Utf8.bytes tokenOfAda) = some tokenOfAda := Token.visible?_seal ..
  have htrimmed : Text.trimmed? tokenOfAda = some tokenOfAda := Token.trimmed?_seal ..
  refine ⟨"Bearer ", tokenOfAda, .inl rfl, ?_, ?_⟩
  · rw [Headers.text?, hvalue, Option.bind_eq_bind, Option.bind_some]
    exact visible?_append hscheme hvisible
  · rw [← Text.trim_of_trimmed? htrimmed, tokenOfAda, Token.Authority.issue,
      Token.validate_seal rfl]
    exact if_pos (Nat.zero_le _)

theorem upload_of_ada_is_refused_in_plain_text :
    strictService.endpoint? uploadOfAda.path = some .keepObject ∧
      Endpoint.keepObject.accepts uploadOfAda.method = true ∧
      ∃ res x', (strictService.handle uploadOfAda ∅).1.run emptyStore () = (.ok res, x') ∧
        400 ≤ res.status ∧ ¬ res.body.IsEnvelope := by
  have he : strictService.endpoint? uploadOfAda.path = some .keepObject := by decide +kernel
  refine ⟨he, rfl, ?_⟩
  have hquery : (readQuery Asset.Location uploadOfAda).isOk = true := by decide +kernel
  have hplain (brought : List Asset.Object) : IsPlain uploadOfAda brought .keepObject := by
    cases hlocation : readQuery Asset.Location uploadOfAda with
    | ok location => exact .form hlocation rfl
    | error e =>
      rw [hlocation] at hquery
      cases hquery
  obtain ⟨res, y, hdispatch⟩ := (failsOnly_dispatch strictService uploadOfAda).exists_of_run
    emptyStore ()
  have hnow : emptyStore .now () = (0, ()) := rfl
  have hinner := tellsErrors_dispatch_iff he rfl hnow (congrArg Prod.fst hdispatch)
  have hnot : ¬ res.TellsErrors := fun htells =>
    hinner.1 htells ⟨⟨_, bears_uploadOfAda⟩, hplain _⟩
  have hrun := run_track (x := ()) rfl (run_reply_admitted hdispatch)
  rw [← receive_strictService (r := uploadOfAda) rfl] at hrun
  refine ⟨_, _, hrun, ?_⟩
  rw [← Classical.not_imp]
  change ¬ Response.TellsErrors _
  rw [tellsErrors_dress_iff, tellsErrors_share_protect]
  exact fun h => hnot h.1

end Api

end KnowledgeGraph
