import KnowledgeGraph.Network.Address
import KnowledgeGraph.Number.Limits
import KnowledgeGraph.Text.Split

/-!
# Web addresses

As much of an address as decides whether a request can be made of it: its scheme, its host and its
port, in the form in which they are shown.
-/

namespace KnowledgeGraph.Exchange

structure Url where
  scheme : String
  /-- The host and, if it is not the scheme's own, the port. -/
  authority : Option String
  /-- What follows them, or follows the scheme if there is no host. -/
  rest : String
  deriving DecidableEq

def Url.text (u : Url) : String :=
  match u.authority with
  | some a => u.scheme ++ "://" ++ a ++ u.rest
  | none => u.scheme ++ ":" ++ u.rest

/-- The schemes whose addresses always have a host, with their own ports. -/
def hosted : List (String × Nat) := [("http", 80), ("https", 443), ("ws", 80), ("wss", 443), ("ftp", 21)]

def isSchemeChar (c : Char) : Bool := c.isAlphanum || c == '+' || c == '-' || c == '.'

def scheme? (cs : List Char) : Option (String × List Char) :=
  match cs.span isSchemeChar with
  | (c :: name, ':' :: rest) =>
    if c.isAlpha then some (String.ofList ((c :: name).map Char.toLower), rest) else none
  | _ => none

def isSlash (c : Char) : Bool := c == '/' || c == '\\'
def endsAuthority (c : Char) : Bool := isSlash c || c == '?' || c == '#'

def isForbidden (c : Char) : Bool :=
  c.toNat ≤ 0x20 || c == '\x7f' || "#/:<>?@[\\]^|%".toList.contains c

/-- A part of an older address in one of its three notations. -/
def part? (s : String) : Option Nat :=
  let digits (radix : Nat) (cs : List Char) : Option Nat :=
    match Network.digits radix cs with
    | (ds, []) => some (ds.foldl (fun n d => n * radix + d) 0)
    | _ => none
  match s.toList with
  | [] => none
  | '0' :: 'x' :: cs | '0' :: 'X' :: cs => digits 16 cs
  | '0' :: c :: cs => digits 8 (c :: cs)
  | cs => digits 10 cs

/-- The four numbers that the parts of an older address stand for; the last part fills what the
others leave. -/
def octets? : List Nat → Option (List Nat)
  | [] => none
  | [last] => if last ≤ maxNat32 then some (bytes 4 last) else none
  | [a, last] => if a < 256 ∧ last ≤ 0xFFFFFF then some (a :: bytes 3 last) else none
  | [a, b, last] => if a < 256 ∧ b < 256 ∧ last ≤ maxNat16 then some (a :: b :: bytes 2 last) else none
  | [a, b, c, d] => if a < 256 ∧ b < 256 ∧ c < 256 ∧ d < 256 then some [a, b, c, d] else none
  | _ => none
where
  bytes (count n : Nat) : List Nat :=
    ((List.range count).map fun i => n / Nat.pow 256 i % 256).reverse

def endsInNumber (labels : List String) : Bool :=
  match labels.getLast? with
  | some last => (part? last).isSome || (last != "" && last.toList.all Char.isDigit)
  | none => false

def host? (cs : List Char) : Option String :=
  match cs with
  | [] => none
  | '[' :: rest => do
    let (gs, rest) ← Network.eightGroups rest
    if rest = [']'] then some ("[" ++ Network.hostText (.v6 gs 0) ++ "]") else none
  | cs =>
    if cs.any isForbidden then none
    else
      let name := String.ofList (cs.map Char.toLower)
      let labels := Text.split '.' name
      let labels := if labels.getLast? = some "" ∧ 1 < labels.length then labels.dropLast else labels
      if endsInNumber labels then do
        let parts ← labels.mapM part?
        return Network.dotted (← octets? parts)
      else some name

/-- A host with its port, which is left out if it is the given one. -/
def authority? (own : Nat) (cs : List Char) : Option String := do
  let cs := match cs.reverse.span (· ≠ '@') with
    | (after, _) => after.reverse
  let (host, port) := match cs.reverse.span Char.isDigit with
    | (ds, ':' :: before) => (before.reverse, some ds.reverse)
    | _ => (cs, none)
  let h ← host? host
  match port with
  | none | some [] => return h
  | some ds =>
    let n := ds.foldl (fun n c => n * 10 + (c.toNat - 48)) 0
    if maxNat16 < n then none
    else if n = own then return h
    else return h ++ ":" ++ Nat.repr n

def Url.read? (s : String) : Option Url := do
  let cs := (s.toList.dropWhile fun c => c.toNat ≤ 0x20).filter fun c =>
    c != '\t' && c != '\n' && c != '\r'
  let (scheme, rest) ← scheme? cs
  match hosted.lookup scheme with
  | some own =>
    let (authority, rest) := (rest.dropWhile isSlash).span (!endsAuthority ·)
    let a ← authority? own authority
    let rest := if rest.head?.any isSlash then rest else '/' :: rest
    return ⟨scheme, some a, String.ofList rest⟩
  | none => return ⟨scheme, none, String.ofList rest⟩

end KnowledgeGraph.Exchange
