import KnowledgeGraph.Json.Basic
import KnowledgeGraph.Number.Text

/-!
# JSON text

A value written without white space: control characters as escapes, everything else outside
ASCII as itself, a float that is not finite as `null`. Each function writes in front of a text
that is already there.
-/

namespace KnowledgeGraph.Json

def hexDigit (n : Nat) : Char :=
  if n < 10 then Char.ofNat (48 + n) else Char.ofNat (87 + n)

def escape (c : Char) : List Char :=
  if c = '"' then ['\\', '"']
  else if c = '\\' then ['\\', '\\']
  else if c = '\n' then ['\\', 'n']
  else if c = '\r' then ['\\', 'r']
  else if c = '\t' then ['\\', 't']
  else if c = '\x08' then ['\\', 'b']
  else if c = '\x0c' then ['\\', 'f']
  else if c.toNat < 0x20 then
    ['\\', 'u', '0', '0', hexDigit (c.toNat / 16), hexDigit (c.toNat % 16)]
  else [c]

def writeString (s : String) (rest : List Char) : List Char :=
  '"' :: s.toList.foldr (fun c r => escape c ++ r) ('"' :: rest)

def writeInt (n : Int) (rest : List Char) : List Char :=
  (if n < 0 then ['-'] else []) ++ Binary64.decimalDigits n.natAbs ++ rest

def Number.write (n : Number) (rest : List Char) : List Char :=
  match n with
  | .int n => writeInt n rest
  | .float x => (if x.isFinite then x.jsonChars else ['n', 'u', 'l', 'l']) ++ rest

mutual
def write : Json → List Char → List Char
  | .null, rest => 'n' :: 'u' :: 'l' :: 'l' :: rest
  | .bool true, rest => 't' :: 'r' :: 'u' :: 'e' :: rest
  | .bool false, rest => 'f' :: 'a' :: 'l' :: 's' :: 'e' :: rest
  | .num n, rest => n.write rest
  | .str s, rest => writeString s rest
  | .arr [], rest => '[' :: ']' :: rest
  | .arr (v :: vs), rest => '[' :: write v (writeItems vs (']' :: rest))
  | .obj [], rest => '\x7b' :: '\x7d' :: rest
  | .obj ((k, v) :: ms), rest =>
    '\x7b' :: writeString k (':' :: write v (writeMembers ms ('\x7d' :: rest)))
def writeItems : List Json → List Char → List Char
  | [], rest => rest
  | v :: vs, rest => ',' :: write v (writeItems vs rest)
def writeMembers : List (String × Json) → List Char → List Char
  | [], rest => rest
  | (k, v) :: ms, rest => ',' :: writeString k (':' :: write v (writeMembers ms rest))
end

def text (v : Json) : String :=
  String.ofList (v.write [])

end KnowledgeGraph.Json
