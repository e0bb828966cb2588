import KnowledgeGraph.Http.Headers
import KnowledgeGraph.Proofs.Digest.Base64
import KnowledgeGraph.Proofs.Text.Split
import KnowledgeGraph.Proofs.Wire.Shape
import KnowledgeGraph.Token.Authority

/-!
# How long a token holds

A token is read back as the claims it was issued with, by the same secret and until its time is
up.
-/

namespace KnowledgeGraph.Token

-- ---------------------------------------------------------------------------
-- Parts
-- ---------------------------------------------------------------------------

theorem decodePart_encode (bytes : List UInt8) :
    decodePart (Base64.urlSafe.encode bytes) = .ok bytes := by
  rw [decodePart, Base64.decode_encode Base64.isProper_urlSafe]

theorem readPart_text {j : Json} (h : j.isIntegral = true)
    (reader : Wire.Source → Except Wire.Fault α) {a : α} (ha : reader (.ofJson j) = .ok a) :
    readPart reader (Text.Utf8.bytes j.text) = .ok a := by
  have hdocument : Wire.Document.ofGlyphs (Text.Utf8.decode (Text.Utf8.bytes j.text)) =
      ⟨.ofJson j, true⟩ := by
    rw [Text.Utf8.decode_bytes]
    exact Wire.Document.ofText_text h
  rw [readPart, hdocument, Wire.Document.read, ha]
  rfl

theorem splitLast?_append {before after : List Char} (h : '.' ∉ after) :
    splitLast? (before ++ '.' :: after) = some (before, after) := by
  have hchars : (before ++ '.' :: after).reverse = after.reverse ++ '.' :: before.reverse := by
    simp
  rw [splitLast?, hchars, Text.span_append_cons (by simpa using h)]
  simp

theorem readHeader_header : readHeader (.ofJson header) = .ok algorithm := by
  rfl

theorem readClaims_toJson (claims : Claims) :
    readClaims (.ofJson (Wire.toJson claims)) = .ok (claims, false) := by
  have hread : Wire.readAs Claims (.ofJson (Wire.toJson claims)) = .ok claims :=
    Wire.ofJson_toJson (by decide) (by decide) claims
  rw [readClaims, hread]
  rfl

-- ---------------------------------------------------------------------------
-- The characters of a token
-- ---------------------------------------------------------------------------

def isTokenChar (c : Char) : Bool := c.isAlphanum || c == '-' || c == '_' || c == '.'

theorem forall_mem_encodePart {p : Char → Prop} (hchar : ∀ n < 64, p (Base64.urlSafe.char n))
    (bytes : List UInt8) : ∀ c ∈ (encodePart bytes).toList, p c := by
  rw [encodePart, String.toList_ofList]
  exact Base64.Variant.forall_mem_encode hchar (fun h => absurd h (by decide)) bytes

theorem dot_not_mem_encodePart (bytes : List UInt8) : '.' ∉ (encodePart bytes).toList := by
  intro h
  have hne : ∀ c ∈ (encodePart bytes).toList, c ≠ '.' := forall_mem_encodePart (by decide) bytes
  exact hne '.' h rfl

theorem forall_mem_seal {p : Char → Prop} (hchar : ∀ n < 64, p (Base64.urlSafe.char n))
    (hdot : p '.') (a : Authority) (claims : Claims) : ∀ c ∈ (a.seal claims).toList, p c := by
  have hpart (bytes : List UInt8) := forall_mem_encodePart hchar bytes
  have hdots : ∀ c ∈ ".".toList, p c := List.forall_mem_singleton.2 hdot
  intro c hc
  simp only [Authority.seal, String.toList_append, List.mem_append] at hc
  rcases hc with (((hc | hc) | hc) | hc) | hc
  · exact hpart _ c hc
  · exact hdots c hc
  · exact hpart _ c hc
  · exact hdots c hc
  · exact hpart _ c hc

theorem isTokenChar_seal (a : Authority) (claims : Claims) :
    ∀ c ∈ (a.seal claims).toList, isTokenChar c = true :=
  forall_mem_seal (by decide) (by decide) a claims

-- ---------------------------------------------------------------------------
-- Checking what was sealed
-- ---------------------------------------------------------------------------

theorem check_seal {a b : Authority} (hkey : b.key = a.key) (now : Nat) (claims : Claims) :
    b.check now (a.seal claims) =
      if claims.expiresAt.toNat + leeway < now then .error .expired else .ok claims := by
  have hsplit (before : String) (bytes : List UInt8) :
      splitLast? (before ++ "." ++ encodePart bytes).toList =
        some (before.toList, (encodePart bytes).toList) := by
    rw [String.toList_append, String.toList_append, List.append_assoc]
    exact splitLast?_append (dot_not_mem_encodePart bytes)
  have hdecode (bytes : List UInt8) : decodePart (encodePart bytes).toList = .ok bytes := by
    rw [encodePart, String.toList_ofList, decodePart_encode]
  have hheader := readPart_text (by decide) readHeader readHeader_header
  have hclaims := readPart_text (Wire.isIntegral_toJson (by decide) claims) readClaims
    (readClaims_toJson claims)
  have hsign (message : String) : b.sign message = a.sign message := by
    rw [Authority.sign, hkey, Authority.sign]
  unfold Authority.check Authority.seal
  simp only [hsplit, hdecode, hheader, hclaims, hsign, bind, Except.bind, String.ofList_toList]
  simp only [ne_eq, not_true_eq_false, if_false]
  split <;> rfl

theorem validate_seal {a b : Authority} (hkey : b.key = a.key) (now : Nat) (claims : Claims) :
    b.validate now (a.seal claims) =
      if now ≤ claims.expiresAt.toNat + leeway then .ok claims
      else .error (.unauthorized "Invalid token: ExpiredSignature") := by
  rw [Authority.validate, check_seal hkey]
  by_cases h : now ≤ claims.expiresAt.toNat + leeway
  · rw [if_neg (Nat.not_lt.2 h), if_pos h]
  · rw [if_pos (Nat.lt_of_not_le h), if_neg h]
    rfl

-- ---------------------------------------------------------------------------
-- The header value
-- ---------------------------------------------------------------------------

theorem trimmed?_seal (a : Authority) (claims : Claims) :
    Text.trimmed? (a.seal claims) = some (a.seal claims) := by
  have hempty : (a.seal claims).isEmpty = false := by
    rw [String.isEmpty_eq_false_iff]
    intro h
    have := congrArg (fun s => s.toList) h
    simp [Authority.seal] at this
  have hblank : ∀ c ∈ (a.seal claims).toList, Text.isBlank c = false :=
    forall_mem_seal (by decide) (by decide) a claims
  rw [Text.trimmed?, Text.trim_of_not_blank hblank]
  simp [hempty]

/-- Both spellings of the scheme lead to the token. -/
theorem bearer?_append {scheme : String} (h : scheme = "Bearer " ∨ scheme = "bearer ")
    (token : String) : bearer? (scheme ++ token) = Text.trimmed? token := by
  rcases h with rfl | rfl
  · rw [bearer?, Text.stripLead?_append, Option.orElse_eq_orElse, Option.orElse_some,
      Option.bind_eq_bind, Option.bind_some]
  · have hother : Text.stripLead? ("bearer " ++ token) "Bearer " = none := by
      rw [Text.stripLead?, String.toList_append]
      rfl
    rw [bearer?, hother, Text.stripLead?_append, Option.orElse_eq_orElse, Option.orElse_none,
      Option.bind_eq_bind, Option.bind_some]

theorem validateHeader_seal (a b : Authority) (now : Nat) (claims : Claims) {scheme : String}
    (h : scheme = "Bearer " ∨ scheme = "bearer ") :
    b.validateHeader now (scheme ++ a.seal claims) = b.validate now (a.seal claims) := by
  rw [Authority.validateHeader, bearer?_append h, trimmed?_seal]

theorem visible?_seal (a : Authority) (claims : Claims) :
    Http.visible? (Text.Utf8.bytes (a.seal claims)) = some (a.seal claims) := by
  have hascii : ∀ c ∈ (a.seal claims).toList, c.toNat < 128 :=
    forall_mem_seal (by decide) (by decide) a claims
  have hvisible : ∀ c ∈ (a.seal claims).toList, Http.isVisible c.toUInt8 = true :=
    forall_mem_seal (by decide) (by decide) a claims
  have hback : ∀ c ∈ (a.seal claims).toList, Char.ofNat c.toUInt8.toNat = c :=
    forall_mem_seal (by decide) (by decide) a claims
  generalize a.seal claims = token at hascii hvisible hback
  have hbytes : Text.Utf8.bytes token = token.toList.map Char.toUInt8 := by
    rw [← Text.Utf8.bytes_ofList_ascii hascii, String.ofList_toList]
  have hall : (token.toList.map Char.toUInt8).all Http.isVisible = true := by
    rw [List.all_map, List.all_eq_true]
    exact hvisible
  have hmap : (token.toList.map Char.toUInt8).map (fun b => Char.ofNat b.toNat) = token.toList := by
    rw [List.map_map]
    exact (List.map_congr_left hback).trans (List.map_id _)
  rw [hbytes, Http.visible?, if_pos hall, hmap, String.ofList_toList]

-- ---------------------------------------------------------------------------
-- Issuing
-- ---------------------------------------------------------------------------

/-- The authority of a secret, be it a good one or not, whose tokens hold for so many hours. -/
def Authority.ofSecret (secret : String) (hours : Nat) : Authority :=
  ⟨Text.Utf8.bytes secret, min lastSecond (hours * 3600)⟩

theorem Authority.ofSettings_eq (s : Settings) :
    ofSettings s = (checkSecret s.secret).map fun secret => ofSecret secret s.lifetimeHours := by
  rw [ofSettings]
  cases checkSecret s.secret <;> rfl

/-- A token can stand in a header. Whoever shows it to an authority of the same secret is told the
claims it was issued with until a minute after its end, and from then on that it has expired.
The end never passes the greatest time there is, however late the issue and long the lifetime. -/
theorem issued_token_holds_until_its_end (secret username : String) (hours otherHours : Nat)
    (issuedAt : UInt64) (now : Nat) :
    let a := Authority.ofSecret secret hours
    let b := Authority.ofSecret secret otherHours
    let token := a.issue issuedAt.toNat username
    let expiry := min (2 ^ 64 - 1) (issuedAt.toNat + min (2 ^ 64 - 1) (3600 * hours))
    (∀ c ∈ token.toList, isTokenChar c = true) ∧
      Http.visible? (Text.Utf8.bytes token) = some token ∧
      ∀ answer ∈ [b.validate now token, b.validateHeader now ("Bearer " ++ token),
          b.validateHeader now ("bearer " ++ token)],
        answer =
          if now ≤ expiry + 60 then
            .ok ⟨username, UInt64.ofNat expiry, issuedAt, some username⟩
          else .error (.unauthorized "Invalid token: ExpiredSignature") := by
  intro a b token expiry
  have hend : min lastSecond (issuedAt.toNat + a.lifetime) = expiry := by
    show min _ (_ + min _ (hours * 3600)) = _
    rw [Nat.mul_comm hours]
    rfl
  have hclaims : a.claims issuedAt.toNat username =
      ⟨username, UInt64.ofNat expiry, issuedAt, some username⟩ := by
    rw [Authority.claims, hend, UInt64.ofNat_toNat]
  have htoNat : (UInt64.ofNat expiry).toNat = expiry := by
    rw [UInt64.toNat_ofNat']
    exact Nat.mod_eq_of_lt (Nat.lt_of_le_of_lt (Nat.min_le_left _ _) (by decide))
  have hkey : b.key = a.key := rfl
  have hvalidate : b.validate now token = _ :=
    validate_seal hkey now (a.claims issuedAt.toNat username)
  rw [hclaims, htoNat] at hvalidate
  refine ⟨isTokenChar_seal a _, visible?_seal a _, ?_⟩
  simp only [List.forall_mem_cons, List.not_mem_nil, false_implies, implies_true, and_true]
  refine ⟨hvalidate, ?_, ?_⟩
  · exact (validateHeader_seal a b now _ (.inl rfl)).trans hvalidate
  · exact (validateHeader_seal a b now _ (.inr rfl)).trans hvalidate

end KnowledgeGraph.Token
