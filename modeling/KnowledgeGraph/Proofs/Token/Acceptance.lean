import KnowledgeGraph.Proofs.Token.Validity
import KnowledgeGraph.Proofs.Wire.Members

/-!
# Which tokens are accepted

Whatever text is presented, it is accepted only as three parts of which the last is the keyed hash
of the other two, and only until its time is up. It is refused as unauthorized otherwise.
-/

namespace KnowledgeGraph.Token

open Wire

-- ---------------------------------------------------------------------------
-- What is asked of a token
-- ---------------------------------------------------------------------------

/-- The bytes are a text that is one JSON object to its end, with these members. -/
structure IsObjectText (bytes : List UInt8) (ms : List (Option String × Source)) : Prop where
  root : Document.ofGlyphs (Text.Utf8.decode bytes) = ⟨.object ms, true⟩
  whole : ∀ m ∈ ms, m.1.isSome = true ∧ m.2.isWhole = true

def NamesAudience (v : Source) : Prop :=
  (∃ s, v = .str s) ∨ ∃ texts : List String, v = .list (texts.map .str)

structure Parts where
  head : String
  body : String
  signature : String

/-- The authority stands by a token of these parts and claims at a time. -/
structure Authority.StandsBy (a : Authority) (now : Nat) (p : Parts) (claims : Claims) : Prop where
  header : ∃ bytes ms, decodePart p.head.toList = .ok bytes ∧ IsObjectText bytes ms ∧
    valuesOf "alg" ms = [.str "HS256"]
  signature : decodePart p.signature.toList =
    .ok (Digest.hmacSha256 a.key (Text.Utf8.bytes (p.head ++ "." ++ p.body)))
  body : ∃ bytes ms, decodePart p.body.toList = .ok bytes ∧ IsObjectText bytes ms ∧
    valuesOf "sub" ms = [.str claims.subject] ∧
    valuesOf "exp" ms = [.num (.int claims.expiresAt.toNat)] ∧
    ∀ v ∈ valuesOf "aud" ms, ¬ NamesAudience v
  alive : now ≤ claims.expiresAt.toNat + 60

-- ---------------------------------------------------------------------------
-- Parts
-- ---------------------------------------------------------------------------

theorem eq_append_of_splitLast? {chars before after : List Char}
    (h : splitLast? chars = some (before, after)) :
    chars = before ++ '.' :: after ∧ '.' ∉ after := by
  by_cases hdot : '.' ∈ chars.reverse
  · obtain ⟨tail, lead, hchars, htail⟩ := List.eq_append_cons_of_mem hdot
    rw [splitLast?, hchars, Text.span_append_cons htail] at h
    cases h
    rw [← List.reverse_reverse chars, hchars]
    simpa using htail
  · rw [splitLast?, Text.span_of_not_mem hdot] at h
    cases h

theorem dot_not_mem_of_decodePart {part : List Char} {bytes : List UInt8}
    (h : decodePart part = .ok bytes) : '.' ∉ part := by
  intro hmem
  unfold decodePart at h
  split at h
  · next hdecode =>
    have hdot : (0x2E : UInt8) ∈ Text.Utf8.bytes (String.ofList part) := by
      rw [Text.Utf8.bytes_ofList, List.mem_flatMap]
      exact ⟨'.', hmem, by decide⟩
    have hadmits := Base64.admits_of_decode hdecode _ hdot
    revert hadmits
    unfold Base64.Variant.Admits
    decide
  · cases h

theorem split_of_splitLast? {token message signature head body : List Char}
    (h : splitLast? token = some (message, signature))
    (h' : splitLast? message = some (head, body)) (hhead : '.' ∉ head) :
    Text.split '.' (String.ofList token) =
      [String.ofList head, String.ofList body, String.ofList signature] := by
  obtain ⟨rfl, hsignature⟩ := eq_append_of_splitLast? h
  obtain ⟨rfl, hbody⟩ := eq_append_of_splitLast? h'
  have hpiece {cs : List Char} (hcs : '.' ∉ cs) : Text.splitBy (· == '.') cs = [cs] := by
    refine Text.splitBy_of_forall fun c hc => ?_
    rw [beq_eq_false_iff_ne]
    rintro rfl
    exact hcs hc
  rw [Text.split, String.toList_ofList, Text.splitBy_append_cons (by rfl),
    Text.splitBy_append_cons (by rfl), hpiece hhead, hpiece hbody, hpiece hsignature]
  rfl

theorem root_of_readPart {reader : Source → Except Fault α} {bytes : List UInt8} {a : α}
    (h : readPart reader bytes = .ok a) :
    ∃ v, Document.ofGlyphs (Text.Utf8.decode bytes) = ⟨v, true⟩ ∧ reader v = .ok a := by
  unfold readPart at h
  split at h
  · next b hread =>
    cases h
    simp only [Document.read, bind_eq_ok_iff] at hread
    obtain ⟨b, hb, hends⟩ := hread
    split at hends
    · next hend =>
      cases hends
      exact ⟨_, by rw [← hend], hb⟩
    · cases hends
  · cases h

-- ---------------------------------------------------------------------------
-- The header and the claims
-- ---------------------------------------------------------------------------

theorem isRequired_alg : headerFields.IsRequired "alg" .text Prod.fst Prod.fst :=
  Layout.isRequired_head rfl

theorem isRequired_sub : (Readable.fields Claims).IsRequired "sub" .text Prod.fst Prod.fst :=
  Layout.isRequired_head rfl

theorem isRequired_exp :
    (Readable.fields Claims).IsRequired "exp" .nat64 (·.2.1) (·.2.1) :=
  (Layout.isRequired_head rfl).tail (by decide)

theorem named_of_foldlM (hfold : ms.foldlM step headerFields.emptySlots = .ok slots)
    (hfinish : headerFields.finish slots = .ok (alg, others))
    (hreads : headerFields.Reads (maxDepth - 1) step) :
    (∀ m ∈ ms, m.1.isSome = true ∧ m.2.isWhole = true) ∧ valuesOf "alg" ms = [.str alg] := by
  obtain ⟨v, hv, hread⟩ := isRequired_alg.read_of_foldlM hreads hfold hfinish
  refine ⟨hreads.forall_mem_of_foldlM hfold, ?_⟩
  rw [hv, Shape.eq_str_of_read hread]

theorem members_of_readHeader {v : Source} {name : String} (h : readHeader v = .ok name) :
    ∃ ms, v = .object ms ∧ (∀ m ∈ ms, m.1.isSome = true ∧ m.2.isWhole = true) ∧
      valuesOf "alg" ms = [.str name] := by
  unfold readHeader at h
  split at h
  · next ms =>
    obtain ⟨slots, hfold, h⟩ := bind_eq_ok_iff.1 h
    obtain ⟨⟨alg, others⟩, hfinish, h⟩ := bind_eq_ok_iff.1 h
    have hname : alg = name := by
      dsimp only at h
      split at h
      · exact Except.ok.inj h
      · cases h
    subst hname
    refine ⟨ms, rfl, named_of_foldlM hfold hfinish ?_⟩
    rintro slots ⟨_ | key, v⟩ slots' hstep
    · cases hstep
    · refine ⟨key, rfl, ?_⟩
      dsimp only at hstep ⊢
      split at hstep
      · next r hr => exact .inl (hr.trans (congrArg some hstep))
      · next hr =>
        obtain ⟨text, htext, rfl⟩ := map_eq_ok_iff.1 hstep
        exact .inr ⟨hr, rfl, Shape.text.isWhole_of_read htext⟩
  · cases h

/-- A list of texts is one that holds nothing else. -/
theorem exists_map_str {items : List Source} (h : ∀ v ∈ items, ∃ s, v = .str s) :
    ∃ texts : List String, items = texts.map Source.str := by
  induction items with
  | nil => exact ⟨[], rfl⟩
  | cons v items ih =>
    obtain ⟨s, rfl⟩ := h v List.mem_cons_self
    obtain ⟨texts, rfl⟩ := ih fun v hv => h v (List.mem_cons_of_mem _ hv)
    exact ⟨s :: texts, rfl⟩

theorem isAudience_iff {v : Source} : isAudience v = true ↔ NamesAudience v := by
  cases v with
  | str s => simp [isAudience, NamesAudience]
  | list items =>
    simp only [isAudience, NamesAudience, List.all_eq_true]
    constructor
    · intro h
      refine .inr ((exists_map_str fun v hv => ?_).imp fun texts => congrArg Source.list)
      have htext := h v hv
      cases v with
      | str s => exact ⟨s, rfl⟩
      | _ => cases htext
    · rintro (⟨s, hs⟩ | ⟨texts, htexts⟩)
      · cases hs
      · cases htexts
        simp
  | _ => simp [isAudience, NamesAudience]

theorem members_of_readClaims {v : Source} {claims : Claims} {named : Bool}
    (h : readClaims v = .ok (claims, named)) :
    ∃ ms, v = .object ms ∧ (∀ m ∈ ms, m.1.isSome = true ∧ m.2.isWhole = true) ∧
      valuesOf "sub" ms = [.str claims.subject] ∧
      valuesOf "exp" ms = [.num (.int claims.expiresAt.toNat)] ∧
      (named = false → ∀ v ∈ valuesOf "aud" ms, ¬ NamesAudience v) := by
  unfold readClaims at h
  obtain ⟨read, hclaims, h⟩ := bind_eq_ok_iff.1 h
  cases v with
  | object ms =>
    obtain ⟨r, hr, rfl⟩ := map_eq_ok_iff.1 hclaims
    have hrecord := (Shape.read_record _ 126 ms).symm.trans hr
    obtain ⟨slots, hfold, hfinish⟩ := bind_eq_ok_iff.1 hrecord
    have hreads := (Readable.fields Claims).reads_step 126
    obtain ⟨sub, hsub, hsubject⟩ := isRequired_sub.read_of_foldlM hreads hfold hfinish
    obtain ⟨exp, hexp, hexpiry⟩ := isRequired_exp.read_of_foldlM hreads hfold hfinish
    -- The three checks of members that are not claims.
    dsimp only at h
    split at h
    · cases h
    split at h
    · cases h
    split at h
    · cases h
    obtain ⟨rfl, rfl⟩ := Prod.mk.inj (Except.ok.inj h)
    refine ⟨ms, rfl, hreads.forall_mem_of_foldlM hfold, ?_, ?_, ?_⟩
    · rw [hsub, Shape.eq_str_of_read hsubject]
      rfl
    · rw [hexp, Shape.eq_num_of_read hexpiry]
      rfl
    · intro hnamed v hv haudience
      obtain ⟨⟨key, v'⟩, hm, hkey⟩ := List.mem_filterMap.1 hv
      split at hkey <;> cases hkey
      next hkey =>
        have hnot := List.any_eq_false.1 hnamed _ hm
        rw [isAudience_iff.2 haudience, hkey] at hnot
        simp at hnot
  | _ => cases h

-- ---------------------------------------------------------------------------
-- Acceptance
-- ---------------------------------------------------------------------------

section
variable {a b : Authority} {now later : Nat} {token : String} {claims claims' : Claims}

/-- A token that holds has passed every step of the check. -/
theorem steps_of_check (h : a.check now token = .ok claims) :
    ∃ message signature head body headBytes bodyBytes,
      splitLast? token.toList = some (message, signature) ∧
      splitLast? message = some (head, body) ∧
      decodePart head = .ok headBytes ∧ readPart readHeader headBytes = .ok algorithm ∧
      decodePart signature = .ok (a.sign (String.ofList message)) ∧
      decodePart body = .ok bodyBytes ∧ readPart readClaims bodyBytes = .ok (claims, false) ∧
      now ≤ claims.expiresAt.toNat + leeway := by
  unfold Authority.check at h
  split at h
  · next message signature hcut =>
    split at h
    · next head body hcut' =>
      obtain ⟨headBytes, hhead, h⟩ := bind_eq_ok_iff.1 h
      obtain ⟨name, hname, h⟩ := bind_eq_ok_iff.1 h
      split at h
      · cases h
      next halgorithm =>
      obtain ⟨signed, hsigned, h⟩ := bind_eq_ok_iff.1 h
      split at h
      · cases h
      next hsame =>
      obtain ⟨bodyBytes, hbody, h⟩ := bind_eq_ok_iff.1 h
      obtain ⟨⟨read, named⟩, hread, h⟩ := bind_eq_ok_iff.1 h
      dsimp only at h
      split at h
      · cases h
      next halive =>
      split at h
      · cases h
      next hnamed =>
      cases h
      rw [Classical.not_not.1 halgorithm] at hname
      rw [Classical.not_not.1 hsame] at hsigned
      rw [Bool.eq_false_of_not_eq_true hnamed] at hread
      exact ⟨message, signature, head, body, headBytes, bodyBytes, hcut, hcut', hhead, hname,
        hsigned, hbody, hread, Nat.le_of_not_lt halive⟩
    · cases h
  · cases h

theorem parts_of_check (h : a.check now token = .ok claims) :
    ∃ p : Parts, Text.split '.' token = [p.head, p.body, p.signature] ∧
      a.StandsBy now p claims := by
  obtain ⟨message, signature, head, body, headBytes, bodyBytes, hcut, hcut', hhead, hname, hsigned,
    hbody, hread, halive⟩ := steps_of_check h
  refine ⟨⟨String.ofList head, String.ofList body, String.ofList signature⟩, ?_, ?_, ?_, ?_, halive⟩
  · rw [← split_of_splitLast? hcut hcut' (dot_not_mem_of_decodePart hhead), String.ofList_toList]
  · obtain ⟨v, hroot, hheader⟩ := root_of_readPart hname
    obtain ⟨ms, rfl, hms, halg⟩ := members_of_readHeader hheader
    exact ⟨headBytes, ms, by rwa [String.toList_ofList], ⟨hroot, hms⟩, halg⟩
  · obtain ⟨rfl, -⟩ := eq_append_of_splitLast? hcut'
    have hmessage : String.ofList (head ++ '.' :: body) =
        String.ofList head ++ "." ++ String.ofList body := by
      rw [← List.singleton_append, ← List.append_assoc, String.ofList_append, String.ofList_append]
    rw [String.toList_ofList, hsigned, Authority.sign, hmessage]
  · obtain ⟨v, hroot, hclaims⟩ := root_of_readPart hread
    obtain ⟨ms, rfl, hms, hsub, hexp, haud⟩ := members_of_readClaims hclaims
    exact ⟨bodyBytes, ms, by rwa [String.toList_ofList], ⟨hroot, hms⟩, hsub, hexp, haud rfl⟩

theorem validate_eq_ok_iff :
    a.validate now token = .ok claims ↔ a.check now token = .ok claims := by
  unfold Authority.validate
  cases a.check now token <;> simp

/-- An accepted text is three parts between dots: a header that names the one algorithm, claims that
are for no audience and have not ended a minute ago, and the keyed hash of the two. Of these claims
the subject and the end are told. Any other text is refused as unauthorized. What two authorities
accept, both their keys give the same hash. -/
theorem accepted_tokens_are_signed (a : Authority) (now : Nat) (token : String) :
    ((∃ claims p, a.validate now token = .ok claims ∧
        Text.split '.' token = [p.head, p.body, p.signature] ∧ a.StandsBy now p claims) ∨
      ∃ reason : Refusal, a.validate now token =
        .error (.unauthorized ("Invalid token: " ++ reason.text))) ∧
    ∀ (b : Authority) (later : Nat) (claims claims' : Claims),
      a.validate now token = .ok claims → b.validate later token = .ok claims' →
      ∃ p : Parts, Text.split '.' token = [p.head, p.body, p.signature] ∧
        Digest.hmacSha256 a.key (Text.Utf8.bytes (p.head ++ "." ++ p.body)) =
          Digest.hmacSha256 b.key (Text.Utf8.bytes (p.head ++ "." ++ p.body)) := by
  constructor
  · cases hcheck : a.check now token with
    | ok claims =>
      obtain ⟨p, hsplit, hp⟩ := parts_of_check hcheck
      exact .inl ⟨claims, p, validate_eq_ok_iff.2 hcheck, hsplit, hp⟩
    | error reason => exact .inr ⟨reason, by rw [Authority.validate, hcheck]⟩
  · intro b later claims claims' ha hb
    obtain ⟨p, hsplit, hp⟩ := parts_of_check (validate_eq_ok_iff.1 ha)
    obtain ⟨p', hsplit', hp'⟩ := parts_of_check (validate_eq_ok_iff.1 hb)
    obtain rfl : p = p' := by
      cases p
      cases p'
      simpa using hsplit.symm.trans hsplit'
    exact ⟨p, hsplit, Except.ok.inj (hp.signature.symm.trans hp'.signature)⟩

end

end KnowledgeGraph.Token
