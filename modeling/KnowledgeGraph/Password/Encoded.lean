import KnowledgeGraph.Digest.Base64
import KnowledgeGraph.Number.Limits
import KnowledgeGraph.Text.Split
import KnowledgeGraph.Text.Utf8

/-!
# Stored passwords

A password is stored as a text of fields, each behind a dollar sign: the algorithm, its version,
its parameters, the salt and the hash. All but the first may be missing.
-/

namespace KnowledgeGraph.Password

inductive ValueFault where
  | character (c : Char)
  | leadingZero
  | malformed
  | tooLong
  | tooShort
  deriving DecidableEq

def ValueFault.text : ValueFault → String
  | .character c => "contains invalid character: '" ++ String.singleton c ++ "'"
  | .leadingZero => "value format is invalid"
  | .malformed => "value malformed"
  | .tooLong => "value to long"
  | .tooShort => "value to short"

inductive Fault where
  | algorithm
  | encoding
  | encodingLength
  | outputTooShort (least : Nat)
  | paramName
  | paramValue (fault : ValueFault)
  | tooManyParams
  | missingField
  | trailing
  | salt (fault : ValueFault)
  | version
  deriving DecidableEq

def Fault.text : Fault → String
  | .algorithm => "unsupported algorithm"
  | .encoding => "invalid Base64 encoding"
  | .encodingLength => "invalid Base64 length"
  | .outputTooShort least =>
    "output size too short, expected at least " ++ Nat.repr least ++ " bytes"
  | .paramName => "invalid parameter name"
  | .paramValue fault => "invalid parameter value: " ++ fault.text
  | .tooManyParams => "maximum number of parameters reached"
  | .missingField => "password hash string missing field"
  | .trailing => "password hash string contains trailing characters"
  | .salt fault => "salt invalid: " ++ fault.text
  | .version => "invalid algorithm version"

-- ---------------------------------------------------------------------------
-- The fields.

structure Encoded where
  algorithm : String
  version : Option Nat
  params : List (String × String)
  salt : Option String
  hash : Option (List UInt8)
  deriving DecidableEq

def isNameChar (c : Char) : Bool := c.isLower || c.isDigit || c == '-'

def isValueChar (c : Char) : Bool :=
  c.isAlphanum || c == '/' || c == '+' || c == '.' || c == '-'

def checkName (s : String) : Except Fault String :=
  if s.isEmpty || 32 < s.utf8ByteSize || !s.toList.all isNameChar then .error .paramName else .ok s

def checkValue (s : String) : Except ValueFault String :=
  if 64 < s.utf8ByteSize then .error .tooLong
  else
    match s.toList.find? (!isValueChar ·) with
    | some c => .error (.character c)
    | none => .ok s

/-- A number below 2³² without leading zeros. -/
def decimal (s : String) : Except ValueFault Nat :=
  match s.toList with
  | [] => .error .malformed
  | c :: cs =>
    match (c :: cs).find? (!Char.isDigit ·) with
    | some c => .error (.character c)
    | none =>
      if c = '0' ∧ !cs.isEmpty then .error .leadingZero
      else
        let n := (c :: cs).foldl (fun n d => n * 10 + (d.toNat - 48)) 0
        if n ≤ maxNat32 then .ok n else .error .malformed

def liftValue (wrap : ValueFault → Fault) : Except ValueFault α → Except Fault α
  | .ok a => .ok a
  | .error fault => .error (wrap fault)

def readParam (s : String) : Except Fault (String × String) :=
  match Text.split '=' s with
  | [] => .error .paramName
  | name :: rest => do
    let name ← checkName name
    match rest with
    | [value] => return (name, ← liftValue .paramValue (checkValue value))
    | value :: _ :: _ =>
      discard <| liftValue .paramValue (checkValue value)
      throw (.paramValue .malformed)
    | [] => throw (.paramValue .malformed)

def readParams (s : String) : Except Fault (List (String × String)) :=
  if 127 < s.utf8ByteSize then .error .tooManyParams
  else (Text.split ',' s).mapM readParam

def readSalt (s : String) : Except Fault String :=
  if s.utf8ByteSize < 4 then .error (.salt .tooShort)
  else if 64 < s.utf8ByteSize then .error (.salt .tooLong)
  else liftValue .salt (checkValue s)

def alphabet : Base64.Variant := ⟨'+', '/', false⟩

def decodeBytes (most : Nat) (s : String) : Except Fault (List UInt8) :=
  if most < s.utf8ByteSize * 3 / 4 then .error .encodingLength
  else
    match alphabet.decode (Text.Utf8.bytes s) with
    | .ok bytes => .ok bytes
    | .error _ => .error .encoding

def minHashSize : Nat := 10

def readHash (s : String) : Except Fault (List UInt8) := do
  let bytes ← decodeBytes 64 s
  if bytes.length < minHashSize then throw (.outputTooShort minHashSize)
  return bytes

def takeVersion : List String → Except Fault (Option Nat × List String)
  | field :: rest =>
    match Text.stripLead? field "v=" with
    | some value =>
      if field.contains ',' then .ok (none, field :: rest)
      else do
        let value ← liftValue .paramValue (checkValue value)
        return (some (← liftValue .paramValue (decimal value)), rest)
    | none => .ok (none, field :: rest)
  | [] => .ok (none, [])

def takeParams : List String → Except Fault (List (String × String) × List String)
  | field :: rest =>
    if field.contains '=' then do return (← readParams field, rest)
    else .ok ([], field :: rest)
  | [] => .ok ([], [])

def Encoded.read (s : String) : Except Fault Encoded :=
  match Text.split '$' s with
  | "" :: algorithm :: rest => do
    let algorithm ← checkName algorithm
    let (version, rest) ← takeVersion rest
    let (params, rest) ← takeParams rest
    match rest with
    | [] => return ⟨algorithm, version, params, none, none⟩
    | [salt] => return ⟨algorithm, version, params, some (← readSalt salt), none⟩
    | salt :: hash :: rest =>
      let salt ← readSalt salt
      let hash ← readHash hash
      unless rest.isEmpty do throw .trailing
      return ⟨algorithm, version, params, some salt, some hash⟩
  | _ => .error .missingField

def encodeBytes (bytes : List UInt8) : String := String.ofList (alphabet.encode bytes)

def Encoded.write (e : Encoded) : String :=
  "$" ++ e.algorithm ++
    (match e.version with
      | some n => "$v=" ++ Nat.repr n
      | none => "") ++
    (if e.params.isEmpty then ""
      else "$" ++ ",".intercalate (e.params.map fun (name, value) => name ++ "=" ++ value)) ++
    (match e.salt with
      | some s => "$" ++ s
      | none => "") ++
    (match e.hash with
      | some bytes => "$" ++ encodeBytes bytes
      | none => "")

end KnowledgeGraph.Password
