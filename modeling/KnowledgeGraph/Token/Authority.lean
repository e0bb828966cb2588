import KnowledgeGraph.Digest.Base64
import KnowledgeGraph.Digest.Sha256
import KnowledgeGraph.Number.Limits
import KnowledgeGraph.Text.Blank
import KnowledgeGraph.Text.Utf8
import KnowledgeGraph.Token.Claims
import KnowledgeGraph.Token.Secret

/-!
# Issuing and validating tokens

A token is the header, the claims and the signature of the two, each in Base64. A token holds
if its parts can be read, it is signed with the authority's key, it has not long expired, and it
is not meant for another audience. The first of these that fails is the reason given.
-/

namespace KnowledgeGraph.Token

structure Authority where
  key : List UInt8
  /-- How long a token holds, in seconds. -/
  lifetime : Nat
  deriving DecidableEq

def lastSecond : Nat := maxNat64

def Authority.ofSettings (s : Settings) : Except Error Authority := do
  let secret ← checkSecret s.secret
  return ⟨Text.Utf8.bytes secret, min lastSecond (s.lifetimeHours * 3600)⟩

def encodePart (bytes : List UInt8) : String := String.ofList (Base64.urlSafe.encode bytes)

/-- The signature over the first two parts. -/
def Authority.sign (a : Authority) (message : String) : List UInt8 :=
  Digest.hmacSha256 a.key (Text.Utf8.bytes message)

def Authority.claims (a : Authority) (now : Nat) (username : String) : Claims where
  subject := username
  expiresAt := UInt64.ofNat (min lastSecond (now + a.lifetime))
  issuedAt := UInt64.ofNat now
  issuer := some username

def Authority.seal (a : Authority) (claims : Claims) : String :=
  let part (j : Json) := encodePart (Text.Utf8.bytes j.text)
  let message := part header ++ "." ++ part (Wire.toJson claims)
  message ++ "." ++ encodePart (a.sign message)

def Authority.issue (a : Authority) (now : Nat) (username : String) : String :=
  a.seal (a.claims now username)

-- ---------------------------------------------------------------------------
-- Validation.

inductive Refusal where
  | incomplete
  | encoding (fault : Base64.Fault)
  | json
  | foreignAlgorithm
  | signature
  | expired
  | audience
  deriving DecidableEq

def Refusal.text : Refusal → String
  | .incomplete => "InvalidToken"
  | .encoding fault => "Base64 error: " ++ fault.message
  | .json => "JSON error: malformed text"
  | .foreignAlgorithm => "InvalidAlgorithm"
  | .signature => "InvalidSignature"
  | .expired => "ExpiredSignature"
  | .audience => "InvalidAudience"

/-- How many seconds a token outlives its end. -/
def leeway : Nat := 60

def splitLast? (chars : List Char) : Option (List Char × List Char) :=
  match chars.reverse.span (· ≠ '.') with
  | (_, []) => none
  | (after, _ :: before) => some (before.reverse, after.reverse)

def decodePart (part : List Char) : Except Refusal (List UInt8) :=
  match Base64.urlSafe.decode (Text.Utf8.bytes (String.ofList part)) with
  | .ok bytes => .ok bytes
  | .error fault => .error (.encoding fault)

def readPart (reader : Wire.Source → Except Wire.Fault α) (bytes : List UInt8) :
    Except Refusal α :=
  match (Wire.Document.ofGlyphs (Text.Utf8.decode bytes)).read reader with
  | .ok a => .ok a
  | .error _ => .error .json

def Authority.check (a : Authority) (now : Nat) (token : String) : Except Refusal Claims := do
  let some (message, signature) := splitLast? token.toList | throw .incomplete
  let some (head, body) := splitLast? message | throw .incomplete
  let named ← readPart readHeader (← decodePart head)
  if named ≠ algorithm then throw .foreignAlgorithm
  if (← decodePart signature) ≠ a.sign (String.ofList message) then throw .signature
  let (claims, hasAudience) ← readPart readClaims (← decodePart body)
  if claims.expiresAt.toNat + leeway < now then throw .expired
  if hasAudience then throw .audience
  return claims

def Authority.validate (a : Authority) (now : Nat) (token : String) : Except Error Claims :=
  match a.check now token with
  | .ok claims => .ok claims
  | .error refusal => .error (.unauthorized ("Invalid token: " ++ refusal.text))

def bearer? (value : String) : Option String := do
  let rest ← Text.stripLead? value "Bearer " <|> Text.stripLead? value "bearer "
  Text.trimmed? rest

def Authority.validateHeader (a : Authority) (now : Nat) (value : String) :
    Except Error Claims :=
  match bearer? value with
  | some token => a.validate now token
  | none => .error (.unauthorized "Invalid Authorization header format")

end KnowledgeGraph.Token
