import KnowledgeGraph.Error
import KnowledgeGraph.Number.Limits
import KnowledgeGraph.Password.Argon2
import KnowledgeGraph.Password.Encoded

/-!
# Hashing and verifying passwords

The parameters of a hash are stored with it, so that they can be raised without making the
stored ones useless. Accounts only ask for a scheme that hashes and verifies; the one in use is
Argon2id.
-/

namespace KnowledgeGraph.Password

structure Scheme where
  saltSize : Nat
  hash : (salt : List UInt8) → (password : String) → Except Error String
  verify : (password stored : String) → Except Error Bool

-- ---------------------------------------------------------------------------
-- Parameters.

def defaultParams : Argon2.Params := ⟨19456, 2, 1, 32, []⟩

/-- The parameters of a stored hash; the last of each name counts. -/
def readArgon2Params (e : Encoded) : Except Fault Argon2.Params := do
  let p ← e.params.foldlM (fun p (name, value) => do
    match name with
    | "m" => return { p with memory := ← liftValue .paramValue (decimal value) }
    | "t" => return { p with passes := ← liftValue .paramValue (decimal value) }
    | "p" => return { p with lanes := ← liftValue .paramValue (decimal value) }
    | "keyid" =>
      discard <| decodeBytes 8 value
      return p
    | "data" => return { p with associated := ← decodeBytes 32 value }
    | _ => throw .paramName) defaultParams
  let p := { p with size := (e.hash.map List.length).getD defaultParams.size }
  if p.memory < 8 ∨ p.memory < p.lanes * 8 % (maxNat32 + 1) then throw (.paramValue .tooShort)
  if p.passes < 1 ∨ p.lanes < 1 then throw (.paramValue .tooShort)
  if 0xFFFFFF < p.lanes then throw (.paramValue .tooLong)
  return p

def kindOf : String → Except Fault Argon2.Kind
  | "argon2d" => .ok .d
  | "argon2i" => .ok .i
  | "argon2id" => .ok .id
  | _ => .error .algorithm

def versionOf : Option Nat → Except Fault Argon2.Version
  | none => .ok .v19
  | some 16 => .ok .v16
  | some 19 => .ok .v19
  | some _ => .error .version

def minSaltSize : Nat := 8

def rehash (e : Encoded) (salt password : String) : Except Fault (List UInt8) := do
  let p ← readArgon2Params e
  let kind ← kindOf e.algorithm
  let version ← versionOf e.version
  let salt ← decodeBytes 64 salt
  if salt.length < minSaltSize then throw (.salt .tooShort)
  return Argon2.hash kind version p (Text.Utf8.bytes password) salt

-- ---------------------------------------------------------------------------
-- The scheme.

def orFault (operation : String) : Except Fault α → Except Error α
  | .ok a => .ok a
  | .error fault => .error (.operationFailed operation fault.text)

def hashArgon2 (salt : List UInt8) (password : String) : Except Error String :=
  let p := defaultParams
  let params := [("m", Nat.repr p.memory), ("t", Nat.repr p.passes), ("p", Nat.repr p.lanes)]
  let e : Encoded := ⟨"argon2id", some 19, params, some (encodeBytes salt), none⟩
  orFault "hash_password" do
    if salt.length < minSaltSize then throw (.salt .tooShort)
    let hash := Argon2.hash .id .v19 p (Text.Utf8.bytes password) salt
    return { e with hash := some hash }.write

/-- Whether the password is the stored one. A stored text without a salt or a hash is nobody's
password. -/
def verifyArgon2 (password stored : String) : Except Error Bool := do
  let e ← orFault "parse_password_hash" (Encoded.read stored)
  match e.salt, e.hash with
  | some salt, some hash => return (← orFault "verify_password" (rehash e salt password)) = hash
  | _, _ => return false

def argon2id : Scheme := ⟨16, hashArgon2, verifyArgon2⟩

end KnowledgeGraph.Password
