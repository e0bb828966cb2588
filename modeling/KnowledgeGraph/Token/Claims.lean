import KnowledgeGraph.Wire.Shape

/-!
# The two JSON parts of a token

The header names the algorithm of the signature; the claims say who the token is for and how
long it holds. What the claims must be beyond their shape is looked at twice by a reader that
knows an audience and a start of validity too, so that these may not be given twice either.
-/

namespace KnowledgeGraph.Token

open Wire

structure Claims where
  subject : String
  /-- Seconds since 1970. -/
  expiresAt : UInt64
  issuedAt : UInt64
  issuer : Option String
  deriving DecidableEq

instance : Writable Claims where
  fields := .cons "sub" .required .text <|
    .cons "exp" .required .nat64 <|
    .cons "iat" .free .nat64 <|
    .cons "iss" .free (.optional .text) .nil
  ofMeaning := fun (subject, expiresAt, issuedAt, issuer, _) =>
    ⟨subject, expiresAt, issuedAt, issuer⟩
  toMeaning := fun c => (c.subject, c.expiresAt, c.issuedAt, c.issuer, ())

-- ---------------------------------------------------------------------------
-- The header.

/-- The algorithms that a header may name. -/
def algorithms : List String :=
  ["HS256", "HS384", "HS512", "ES256", "ES384", "RS256", "RS384", "RS512",
    "PS256", "PS384", "PS512", "EdDSA"]

/-- The only algorithm that tokens are signed with here. -/
def algorithm : String := "HS256"

def header : Json := .obj [("typ", .str "JWT"), ("alg", .str algorithm)]

/-- The members of a header that have a shape of their own; all others are texts. -/
def headerFields : Layout :=
  .cons "alg" .required .text <|
  .cons "typ" .free (.optional .text) <|
  .cons "cty" .free (.optional .text) <|
  .cons "jku" .free (.optional .text) <|
  .cons "jwk" .free (.optional (.record .nil)) <|
  .cons "kid" .free (.optional .text) <|
  .cons "x5u" .free (.optional .text) <|
  .cons "x5c" .free (.optional (.list .text)) <|
  .cons "x5t" .free (.optional .text) <|
  .cons "x5t#S256" .free (.optional .text) <|
  .cons "crit" .free (.optional (.list .text)) <|
  .cons "enc" .free (.optional .text) <|
  .cons "zip" .free (.optional .text) <|
  .cons "url" .free (.optional .text) <|
  .cons "nonce" .free (.optional .text) .nil

def readHeader : Source → Except Fault String
  | .object ms => do
    let slots ← ms.foldlM (fun slots (key, v) =>
      match key with
      | none => .error .malformed
      | some key =>
        match headerFields.readMember (maxDepth - 1) key v slots with
        | some slots => slots
        | none => (Shape.text.read maxDepth v).map fun _ => slots) headerFields.emptySlots
    let (name, _) ← headerFields.finish slots
    if name ∈ algorithms then return name else throw .mismatch
  | v => .error v.refusal

-- ---------------------------------------------------------------------------
-- What a token may say beside its claims.

def occurrences (name : String) (ms : List (Option String × Source)) : Nat :=
  ms.countP fun (key, _) => key == some name

def isReadable (v : Source) : Bool :=
  match v.toJson maxDepth with
  | .ok _ => true
  | .error _ => false

/-- A start of validity is not heeded; a reader who finds no number there stops at what is in it. -/
def startIsSkipped : Source → Bool
  | .list items => items.isEmpty
  | .object ms => ms.isEmpty
  | .outOfRange => true
  | v => isReadable v

def isAudience : Source → Bool
  | .str _ => true
  | .list items => items.all fun
    | .str _ => true
    | _ => false
  | _ => false

/-- Reads the claims, and whether an audience is named. -/
def readClaims (v : Source) : Except Fault (Claims × Bool) := do
  let claims ← readAs Claims v
  match v with
  | .object ms =>
    if ["nbf", "aud"].any fun name => 1 < occurrences name ms then throw .mismatch
    if ms.any fun (key, v) => key == some "nbf" && !startIsSkipped v then throw .malformed
    if ms.any fun (key, v) => key == some "aud" && !isReadable v then throw .malformed
    return (claims, ms.any fun (key, v) => key == some "aud" && isAudience v)
  | _ => throw .mismatch

end KnowledgeGraph.Token
