import KnowledgeGraph.Proofs.Api.Waiting
import KnowledgeGraph.Proofs.Text.Utf8

/-!
# Origins that answers are shared with

Any texts may be configured as origins. What is left of them is taken by a library that takes no
wildcard, and an answer is shared with the origin of its request exactly if that is one of them.
-/

namespace KnowledgeGraph.Api

open Http

def originHeader : String := "access-control-allow-origin"

/-- A library for sharing that takes lists of origins. It takes none with a wildcard; of one that it
takes, it echoes what is in it. -/
structure EchoesListed (list : List (List UInt8) → Option (List UInt8 → Option (List UInt8))) :
    Prop where
  wildcard : ∀ entries, Text.Utf8.bytes "*" ∈ entries → list entries = none
  echo : ∀ entries, Text.Utf8.bytes "*" ∉ entries → ∃ allow, list entries = some allow ∧
    ∀ origin, allow origin = if origin ∈ entries then some origin else none

/-- An origin is a configured one without the blanks around it, which is something else than the
wildcard and can be the value of a header. -/
def IsConfigured (configured : List String) (origin : List UInt8) : Prop :=
  ∃ o ∈ configured, Text.trim o ≠ "" ∧ Text.trim o ≠ "*" ∧ origin = Text.Utf8.bytes (Text.trim o) ∧
    ∀ b ∈ origin, b = 0x09 ∨ 0x20 ≤ b ∧ b ≠ 0x7F

-- ---------------------------------------------------------------------------
-- The list of origins
-- ---------------------------------------------------------------------------

theorem bytes_inj : Text.Utf8.bytes s = Text.Utf8.bytes t ↔ s = t := by
  refine ⟨fun h => ?_, congrArg _⟩
  have htext := congrArg Text.Utf8.text? h
  rw [Text.Utf8.text?_bytes, Text.Utf8.text?_bytes] at htext
  exact Option.some.inj htext

theorem isLegalValue_iff :
    isLegalValue value = true ↔ ∀ b ∈ value, b = 0x09 ∨ 0x20 ≤ b ∧ b ≠ 0x7F := by
  simp [isLegalValue]

theorem mem_allowedOrigins :
    origin ∈ allowedOrigins configured ↔ IsConfigured configured origin := by
  simp only [allowedOrigins, IsConfigured, List.mem_filter, List.mem_map, isLegalValue_iff]
  constructor
  · rintro ⟨⟨_, ⟨⟨o, ho, rfl⟩, hkept⟩, rfl⟩, hlegal⟩
    simp only [Bool.and_eq_true, Bool.not_eq_true', bne_iff_ne, String.isEmpty_eq_false_iff] at hkept
    exact ⟨o, ho, hkept.1, hkept.2, rfl, hlegal⟩
  · rintro ⟨o, ho, hblank, hwildcard, rfl, hlegal⟩
    refine ⟨⟨_, ⟨⟨o, ho, rfl⟩, ?_⟩, rfl⟩, hlegal⟩
    simp [hblank, hwildcard]

theorem not_isConfigured_wildcard : ¬ IsConfigured configured (Text.Utf8.bytes "*") := by
  rintro ⟨o, -, -, hne, heq, -⟩
  exact hne (bytes_inj.mp heq).symm

theorem sharedOrigin?_eq_some_iff : sharedOrigin? configured r = some origin ↔
    r.headers.get? "origin" = some origin ∧ IsConfigured configured origin := by
  rw [sharedOrigin?, Option.filter_eq_some_iff, List.contains_iff_mem, mem_allowedOrigins]

theorem sharedOrigin?_eq_bind {allow : List UInt8 → Option (List UInt8)}
    (h : ∀ origin, allow origin = if origin ∈ allowedOrigins configured then some origin else none)
    (r : Request) : sharedOrigin? configured r = (r.headers.get? "origin").bind allow := by
  rw [sharedOrigin?]
  cases r.headers.get? "origin" with
  | none => rfl
  | some origin => simp [Option.filter_some, h]

-- ---------------------------------------------------------------------------
-- On the way back
-- ---------------------------------------------------------------------------

theorem values_share_originHeader (h : res.headers.values originHeader = [])
    (configured : List String) (r : Request) :
    (share configured r res).headers.values originHeader =
      (sharedOrigin? configured r).toList := by
  have hkept : (((res.withText "access-control-allow-credentials" "true").withText "vary"
      "origin, access-control-request-method, access-control-request-headers").headers.values
        originHeader) = [] := by
    rw [Response.values_withText_of_ne (by decide), Response.values_withText_of_ne (by decide), h]
  unfold share
  dsimp only
  split
  · next o ho =>
    rw [ho]
    exact Headers.values_set_self ..
  · next ho =>
    rw [ho]
    exact hkept

theorem values_preflight_originHeader (configured : List String) (r : Request) :
    (preflight configured r).headers.values originHeader = (sharedOrigin? configured r).toList := by
  rw [preflight, Response.values_withText_of_ne (by decide),
    Response.values_withText_of_ne (by decide)]
  exact values_share_originHeader rfl configured r

theorem values_protect_originHeader (h : IsUndressed res) :
    (protect res).headers.values originHeader = [] := by
  have hres := h.headers originHeader (by decide)
  simp [protect, protectiveHeaders, originHeader, Response.values_withText_of_ne] at hres ⊢
  exact hres

section
variable {answer : (c : Call) → σ → c.Answer × σ} {s : Service} {r : Request}

theorem values_reply_originHeader (a : Admission)
    (h : (s.reply r a).run answer y = (.ok res, z)) :
    res.headers.values originHeader = (sharedOrigin? s.origins r).toList := by
  cases a with
  | preflight =>
    cases h
    exact values_preflight_originHeader ..
  | limited after =>
    cases h
    exact values_share_originHeader rfl ..
  | admitted =>
    obtain ⟨inner, z', hinner⟩ := (failsOnly_dispatch s r).exists_of_run answer y
    cases (run_reply_admitted hinner).symm.trans h
    have hundressed := (undressed_dispatch s r).of_run hinner
    exact values_share_originHeader (values_protect_originHeader hundressed) ..

end

theorem answers_originHeader (s : Service) (r : Request) (ws : Traffic.Windows) :
    s.Answers r ws fun res =>
      res.headers.values originHeader = (sharedOrigin? s.origins r).toList := by
  intro σ answer x
  obtain ⟨inner, z, hreply, hrun⟩ := exists_run_track s r (s.receive r ws).1 answer x
  refine ⟨_, _, hrun, ?_⟩
  exact (values_dress s r inner (by decide) (by decide) _).trans
    (values_reply_originHeader _ hreply)

/-- Every answer says that it may be shared with the origin of its request if that is configured,
and with nobody otherwise. Whatever is configured, the library takes what is left of it. -/
theorem answers_are_shared_with_configured_origins (h : EchoesListed list) (s : Service) :
    ∃ allow, list (allowedOrigins s.origins) = some allow ∧ ∀ r ws, s.Answers r ws fun res =>
      res.headers.values originHeader = ((r.headers.get? "origin").bind allow).toList ∧
      (∀ origin, origin ∈ res.headers.values originHeader ↔
        r.headers.get? "origin" = some origin ∧ IsConfigured s.origins origin) ∧
      Text.Utf8.bytes "*" ∉ res.headers.values originHeader := by
  have hwildcard : Text.Utf8.bytes "*" ∉ allowedOrigins s.origins := fun hmem =>
    not_isConfigured_wildcard (mem_allowedOrigins.mp hmem)
  obtain ⟨allow, hlist, hallow⟩ := h.echo _ hwildcard
  refine ⟨allow, hlist, fun r ws => (answers_originHeader s r ws).imp fun res hvalues => ?_⟩
  have hmem (origin : List UInt8) : origin ∈ res.headers.values originHeader ↔
      r.headers.get? "origin" = some origin ∧ IsConfigured s.origins origin := by
    rw [hvalues, Option.mem_toList, sharedOrigin?_eq_some_iff]
  refine ⟨by rw [hvalues, sharedOrigin?_eq_bind hallow], hmem, fun h => ?_⟩
  exact not_isConfigured_wildcard ((hmem _).mp h).2

def echoListed (entries : List (List UInt8)) : Option (List UInt8 → Option (List UInt8)) :=
  if Text.Utf8.bytes "*" ∈ entries then none
  else some fun origin => if origin ∈ entries then some origin else none

theorem echoesListed_echoListed : EchoesListed echoListed where
  wildcard _ h := if_pos h
  echo _ h := ⟨_, if_neg h, fun _ => rfl⟩

def sharingService : Service :=
  { strictService with origins := [" https://atlas.example ", " * ", "", "https://a\nb"] }

def visitFrom (origin : String) : Request :=
  ⟨"GET", "/api", [("origin", Text.Utf8.bytes origin)], .empty, none, 0⟩

theorem isConfigured_sharingService :
    IsConfigured sharingService.origins (Text.Utf8.bytes "https://atlas.example") := by
  have htrim : Text.trim " https://atlas.example " = "https://atlas.example" := by decide +kernel
  refine ⟨" https://atlas.example ", .head _, ?_⟩
  rw [htrim]
  exact ⟨by decide, by decide, rfl, by decide +kernel⟩

theorem configured_visitors_see_answers :
    EchoesListed echoListed ∧
    ∃ allow, echoListed (allowedOrigins sharingService.origins) = some allow ∧
      sharingService.Answers (visitFrom "https://atlas.example") ∅ (fun res =>
        Text.Utf8.bytes "https://atlas.example" ∈ res.headers.values originHeader) ∧
      sharingService.Answers (visitFrom "*") ∅ fun res =>
        Text.Utf8.bytes "*" ∉ res.headers.values originHeader := by
  obtain ⟨allow, hlist, hanswers⟩ :=
    answers_are_shared_with_configured_origins echoesListed_echoListed sharingService
  refine ⟨echoesListed_echoListed, allow, hlist, (hanswers _ ∅).imp fun res h => ?_,
    (hanswers _ ∅).imp fun res h => h.2.2⟩
  exact (h.2.1 _).mpr ⟨rfl, isConfigured_sharingService⟩

end KnowledgeGraph.Api
