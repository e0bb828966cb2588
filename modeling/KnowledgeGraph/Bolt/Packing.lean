import KnowledgeGraph.Bolt.Value
import KnowledgeGraph.Number.Limits
import KnowledgeGraph.Text.Utf8

/-!
# Values as bytes

The first byte of a value says what it is. Small numbers and sizes are part of that byte; others
follow it, with their most significant byte first. A structure is some values behind a byte that
says what they make up.
-/

namespace KnowledgeGraph.Bolt

-- ---------------------------------------------------------------------------
-- Numbers.

def bigEndian : (count n : Nat) → List UInt8
  | 0, _ => []
  | count + 1, n => bigEndian count (n / 256) ++ [UInt8.ofNat n]

def ofBigEndian (bytes : List UInt8) : Nat := bytes.foldl (fun n b => n * 256 + b.toNat) 0

def signed (count n : Nat) : Int := if n < Nat.pow 256 count / 2 then n else n - Nat.pow 256 count

def widthOf (n : Int) : Nat :=
  if -0x80 ≤ n ∧ n < 0x80 then 1
  else if -0x8000 ≤ n ∧ n < 0x8000 then 2
  else if -0x80000000 ≤ n ∧ n < 0x80000000 then 4
  else 8

def widthMark : Nat → UInt8
  | 1 => 0xC8
  | 2 => 0xC9
  | 4 => 0xCA
  | _ => 0xCB

def width? (mark : UInt8) : Option Nat := [1, 2, 4, 8].find? (widthMark · = mark)

def packInteger (n : Int64) : List UInt8 :=
  let i := n.toInt
  if -0x10 ≤ i ∧ i < 0x80 then bigEndian 1 (i % 256).toNat
  else
    let w := widthOf i
    widthMark w :: bigEndian w (i % Nat.pow 256 w).toNat

-- ---------------------------------------------------------------------------
-- Sizes.

structure Sizing where
  /-- The first byte of those with up to fifteen parts, to which their number is added. -/
  small : Option UInt8
  /-- The byte before a size of one byte; those before sizes of two and of four follow it. -/
  large : UInt8

namespace Sizing

def text : Sizing := ⟨some 0x80, 0xD0⟩
def list : Sizing := ⟨some 0x90, 0xD4⟩
def map : Sizing := ⟨some 0xA0, 0xD8⟩
def bytes : Sizing := ⟨none, 0xCC⟩

def packLarge (s : Sizing) (n : Nat) : List UInt8 :=
  if n < 256 then s.large :: bigEndian 1 n
  else if n ≤ maxNat16 then (s.large + 1) :: bigEndian 2 n
  else (s.large + 2) :: bigEndian 4 n

def pack (s : Sizing) (n : Nat) : List UInt8 :=
  match s.small with
  | some mark => if n < 16 then [mark + UInt8.ofNat n] else s.packLarge n
  | none => s.packLarge n

end Sizing

-- ---------------------------------------------------------------------------
-- Writing values.

def packText (s : String) : List UInt8 :=
  let bytes := Text.Utf8.bytes s
  Sizing.text.pack bytes.length ++ bytes

def structureHead (fields : Nat) (tag : UInt8) : List UInt8 := [0xB0 + UInt8.ofNat fields, tag]

def nodeTag : UInt8 := 0x4E

mutual
def pack : Value → List UInt8
  | .null => [0xC0]
  | .flag b => [if b then 0xC3 else 0xC2]
  | .integer n => packInteger n
  | .float x => 0xC1 :: bigEndian 8 x.bits.toNat
  | .text s => packText s
  | .bytes b => Sizing.bytes.pack b.size ++ b.toList
  | .list items => Sizing.list.pack items.length ++ packItems items
  | .map entries => Sizing.map.pack entries.length ++ packEntries entries
  | .node id labels properties =>
    structureHead 3 nodeTag ++ packInteger id ++
      Sizing.list.pack labels.length ++ labels.flatMap packText ++
      Sizing.map.pack properties.length ++ packEntries properties
def packItems : List Value → List UInt8
  | [] => []
  | v :: vs => pack v ++ packItems vs
def packEntries : List (String × Value) → List UInt8
  | [] => []
  | (k, v) :: es => packText k ++ pack v ++ packEntries es
end

-- ---------------------------------------------------------------------------
-- Reading values. A reader answers what it read and what follows.

abbrev Unpacker (α : Type) := List UInt8 → Option (α × List UInt8)

def takeBytes (n : Nat) : Unpacker (List UInt8) := fun bytes =>
  if bytes.length < n then none else some (bytes.splitAt n)

def takeNumber (width : Nat) : Unpacker Nat := fun bytes => do
  let (digits, rest) ← takeBytes width bytes
  return (ofBigEndian digits, rest)

def takeMany (item : Unpacker α) : Nat → Unpacker (List α)
  | 0, bytes => some ([], bytes)
  | n + 1, bytes => do
    let (a, bytes) ← item bytes
    let (as, bytes) ← takeMany item n bytes
    return (a :: as, bytes)

def Sizing.take (s : Sizing) (mark : UInt8) : Unpacker Nat := fun bytes =>
  if s.small.any fun small => small ≤ mark && mark < small + 16 then
    some ((mark &&& 0x0F).toNat, bytes)
  else if mark = s.large then takeNumber 1 bytes
  else if mark = s.large + 1 then takeNumber 2 bytes
  else if mark = s.large + 2 then takeNumber 4 bytes
  else none

def takeText : Unpacker String
  | [] => none
  | mark :: bytes => do
    let (n, bytes) ← Sizing.text.take mark bytes
    let (content, bytes) ← takeBytes n bytes
    return (← Text.Utf8.text? content, bytes)

def takeEntry (value : Unpacker Value) : Unpacker (String × Value) := fun bytes => do
  let (k, bytes) ← takeText bytes
  let (v, bytes) ← value bytes
  return ((k, v), bytes)

def takeInteger (width : Nat) : Unpacker Value := fun bytes => do
  let (n, bytes) ← takeNumber width bytes
  return (.integer (.ofInt (signed width n)), bytes)

def takeFloat : Unpacker Value := fun bytes => do
  let (n, bytes) ← takeNumber 8 bytes
  return (.float ⟨.ofNat n⟩, bytes)

def texts? (vs : List Value) : Option (List String) :=
  vs.mapM fun
    | .text s => some s
    | _ => none

def ofStructure (tag : UInt8) (fields : List Value) : Option Value :=
  match fields with
  | .integer id :: .list labels :: .map properties :: _ =>
    if tag = nodeTag then (texts? labels).map (.node id · properties) else none
  | _ => none

def takeStructure (value : Unpacker Value) (mark : UInt8) : Unpacker (UInt8 × List Value)
  | [] => none
  | tag :: bytes =>
    if 0xB0 ≤ mark && mark ≤ 0xBF then do
      let (fields, bytes) ← takeMany value (mark &&& 0x0F).toNat bytes
      return ((tag, fields), bytes)
    else none

def unpack : (depth : Nat) → Unpacker Value
  | 0, _ => none
  | _ + 1, [] => none
  | depth + 1, mark :: bytes =>
    if mark < 0x80 || 0xF0 ≤ mark then
      some (.integer (.ofInt (signed 1 mark.toNat)), bytes)
    else if mark = 0xC0 then some (.null, bytes)
    else if mark = 0xC1 then takeFloat bytes
    else if mark = 0xC2 then some (.flag false, bytes)
    else if mark = 0xC3 then some (.flag true, bytes)
    else
      match width? mark with
      | some width => takeInteger width bytes
      | none =>
        match Sizing.list.take mark bytes, Sizing.map.take mark bytes,
            Sizing.bytes.take mark bytes with
        | some (n, bytes), _, _ => do
          let (items, bytes) ← takeMany (unpack depth) n bytes
          return (.list items, bytes)
        | _, some (n, bytes), _ => do
          let (entries, bytes) ← takeMany (takeEntry (unpack depth)) n bytes
          return (.map entries, bytes)
        | _, _, some (n, bytes) => do
          let (content, bytes) ← takeBytes n bytes
          return (.bytes ⟨content.toArray⟩, bytes)
        | none, none, none =>
          match takeText (mark :: bytes) with
          | some (s, bytes) => some (.text s, bytes)
          | none => do
            let ((tag, fields), bytes) ← takeStructure (unpack depth) mark bytes
            return (← ofStructure tag fields, bytes)

end KnowledgeGraph.Bolt
