/-!
# Addresses of sockets

The two kinds of internet address with a port, as they are read and written. A number of an older
address has no leading zeros; a newer one is eight groups, of which two colons leave out as many as
are missing, and may end in an older address. It is written with its longest run of zero groups
left out, the first of them if there are two.
-/

namespace KnowledgeGraph.Network

inductive Host where
  | v4 (octets : List Nat)
  | v6 (groups : List Nat) (zone : Nat)
  deriving DecidableEq

structure Address where
  host : Host
  port : Nat
  deriving DecidableEq

-- ---------------------------------------------------------------------------
-- Reading. A reader answers what it read and what follows.

abbrev Reader (α : Type) := List Char → Option (α × List Char)

def digitValue? (radix : Nat) (c : Char) : Option Nat :=
  let n :=
    if c.isDigit then some (c.toNat - 48)
    else if 'a' ≤ c ∧ c ≤ 'f' then some (c.toNat - 87)
    else if 'A' ≤ c ∧ c ≤ 'F' then some (c.toNat - 55)
    else none
  n.filter (· < radix)

def digits (radix : Nat) : List Char → List Nat × List Char
  | [] => ([], [])
  | c :: cs =>
    match digitValue? radix c with
    | none => ([], c :: cs)
    | some d =>
      let (ds, rest) := digits radix cs
      (d :: ds, rest)

def number (radix limit : Nat) (most : Option Nat) (leadingZeros : Bool) : Reader Nat := fun cs =>
  let (ds, rest) := digits radix cs
  let n := ds.foldl (fun n d => n * radix + d) 0
  if ds.isEmpty ∨ limit < n then none
  else if most.any (· < ds.length) then none
  else if !leadingZeros ∧ ds.head? = some 0 ∧ 1 < ds.length then none
  else some (n, rest)

def char (c : Char) : Reader Unit
  | d :: rest => if c = d then some ((), rest) else none
  | [] => none

def separated (sep : Char) (index : Nat) (item : Reader α) : Reader α := fun cs =>
  if index = 0 then item cs
  else do
    let ((), cs) ← char sep cs
    item cs

def octet : Reader Nat := number 10 255 (some 3) false

def octets : Reader (List Nat) := fun cs => do
  let (a, cs) ← octet cs
  let (b, cs) ← separated '.' 1 octet cs
  let (c, cs) ← separated '.' 2 octet cs
  let (d, cs) ← separated '.' 3 octet cs
  return ([a, b, c, d], cs)

/-- As many groups as there are, up to a number of them, and whether the last two are an older
address. -/
def groups : (room index : Nat) → List Char → List Nat × Bool × List Char
  | 0, _, cs => ([], false, cs)
  | room + 1, index, cs =>
    match if room = 0 then none else separated ':' index octets cs with
    | some ([a, b, c, d], rest) => ([a * 256 + b, c * 256 + d], true, rest)
    | _ =>
      match separated ':' index (number 16 0xFFFF (some 4) true) cs with
      | none => ([], false, cs)
      | some (g, rest) =>
        let (gs, older, rest) := groups room (index + 1) rest
        (g :: gs, older, rest)

def eightGroups : Reader (List Nat) := fun cs => do
  let (head, older, cs) := groups 8 0 cs
  if head.length = 8 then return (head, cs)
  if older then none
  let ((), cs) ← char ':' cs
  let ((), cs) ← char ':' cs
  let (tail, _, cs) := groups (7 - head.length) 0 cs
  return (head ++ List.replicate (8 - head.length - tail.length) 0 ++ tail, cs)

def port : Reader Nat := fun cs => do
  let ((), cs) ← char ':' cs
  number 10 0xFFFF none true cs

def zone : Reader Nat := fun cs => do
  let ((), cs) ← char '%' cs
  number 10 0xFFFFFFFF none true cs

def olderAddress : Reader Address := fun cs => do
  let (os, cs) ← octets cs
  let (p, cs) ← port cs
  return (⟨.v4 os, p⟩, cs)

def newerAddress : Reader Address := fun cs => do
  let ((), cs) ← char '[' cs
  let (gs, cs) ← eightGroups cs
  let (z, cs) := (zone cs).getD (0, cs)
  let ((), cs) ← char ']' cs
  let (p, cs) ← port cs
  return (⟨.v6 gs z, p⟩, cs)

def Address.read? (s : String) : Option Address :=
  match (olderAddress s.toList).orElse fun _ => newerAddress s.toList with
  | some (a, []) => some a
  | _ => none

-- ---------------------------------------------------------------------------
-- Writing.

def dotted (octets : List Nat) : String := ".".intercalate (octets.map Nat.repr)

def hex (n : Nat) : String := String.ofList (Nat.toDigits 16 n)

def colons (gs : List Nat) : String := ":".intercalate (gs.map hex)

def leadingZeros (gs : List Nat) : Nat := (gs.takeWhile (· = 0)).length

/-- The start and the length of the first longest run of zeros. -/
def longestRun : (start : Nat) → List Nat → Nat × Nat
  | _, [] => (0, 0)
  | start, g :: gs =>
    let here := leadingZeros (g :: gs)
    let (other, length) := longestRun (start + 1) gs
    if length ≤ here then (start, here) else (other, length)

def hostText : Host → String
  | .v4 octets => dotted octets
  | .v6 [0, 0, 0, 0, 0, 0xFFFF, a, b] _ =>
    "::ffff:" ++ dotted [a / 256, a % 256, b / 256, b % 256]
  | .v6 gs _ =>
    let (start, length) := longestRun 0 gs
    if 1 < length then colons (gs.take start) ++ "::" ++ colons (gs.drop (start + length))
    else colons gs

def Address.text (a : Address) : String :=
  let host :=
    match a.host with
    | .v4 _ => hostText a.host
    | .v6 _ 0 => "[" ++ hostText a.host ++ "]"
    | .v6 _ z => "[" ++ hostText a.host ++ "%" ++ Nat.repr z ++ "]"
  host ++ ":" ++ Nat.repr a.port

end KnowledgeGraph.Network
