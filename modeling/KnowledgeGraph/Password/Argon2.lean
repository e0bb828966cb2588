import KnowledgeGraph.Digest.Blake2b

/-!
# Argon2

The password hash of RFC 9106, in its three kinds and two versions. The memory is a table of
blocks, one row for each lane; it is filled column by column, in as many passes as asked for, and
each block is made of its predecessor and of another one that the kind of hash chooses.
-/

namespace KnowledgeGraph.Password.Argon2

open Digest

inductive Kind where
  /-- The blocks that are read depend on the password. -/
  | d
  /-- They do not. -/
  | i
  /-- They do not in the first half of the first pass. -/
  | id
  deriving DecidableEq

def Kind.code : Kind → UInt64
  | .d => 0
  | .i => 1
  | .id => 2

inductive Version where
  | v16
  | v19
  deriving DecidableEq

def Version.number : Version → Nat
  | .v16 => 16
  | .v19 => 19

structure Params where
  memory : Nat
  passes : Nat
  lanes : Nat
  size : Nat
  associated : List UInt8
  deriving DecidableEq

/-- A column is one block in each lane; a pass has four slices of columns. -/
def slices : Nat := 4

def Params.sliceLength (p : Params) : Nat := p.memory / (slices * p.lanes)

def Params.laneLength (p : Params) : Nat := slices * p.sliceLength

-- ---------------------------------------------------------------------------
-- Blocks.

abbrev Block := Array UInt64

def blockBytes : Nat := 1024

def zeroBlock : Block := Array.replicate 128 0

def Block.xor (a b : Block) : Block := Array.zipWith (· ^^^ ·) a b

structure Quad where
  a : UInt64
  b : UInt64
  c : UInt64
  d : UInt64

@[inline] def addMul (a b : UInt64) : UInt64 :=
  a + b + 2 * ((a &&& 0xFFFFFFFF) * (b &&& 0xFFFFFFFF))

@[inline] def mix (q : Quad) : Quad :=
  let a := addMul q.a q.b
  let d := Blake2b.rotr (q.d ^^^ a) 32
  let c := addMul q.c d
  let b := Blake2b.rotr (q.b ^^^ c) 24
  let a := addMul a b
  let d := Blake2b.rotr (d ^^^ a) 16
  let c := addMul c d
  let b := Blake2b.rotr (b ^^^ c) 63
  ⟨a, b, c, d⟩

/-- Mixes sixteen words of a block, given where they are: the columns of the four by four words,
then the diagonals. -/
@[inline] def permute (spot : Nat → Nat) (m : Block) : Block :=
  let w (i : Nat) : UInt64 := m.getD (spot i) 0
  let q0 := mix ⟨w 0, w 4, w 8, w 12⟩
  let q1 := mix ⟨w 1, w 5, w 9, w 13⟩
  let q2 := mix ⟨w 2, w 6, w 10, w 14⟩
  let q3 := mix ⟨w 3, w 7, w 11, w 15⟩
  let r0 := mix ⟨q0.a, q1.b, q2.c, q3.d⟩
  let r1 := mix ⟨q1.a, q2.b, q3.c, q0.d⟩
  let r2 := mix ⟨q2.a, q3.b, q0.c, q1.d⟩
  let r3 := mix ⟨q3.a, q0.b, q1.c, q2.d⟩
  let m := m.setIfInBounds (spot 0) r0.a
  let m := m.setIfInBounds (spot 1) r1.a
  let m := m.setIfInBounds (spot 2) r2.a
  let m := m.setIfInBounds (spot 3) r3.a
  let m := m.setIfInBounds (spot 4) r3.b
  let m := m.setIfInBounds (spot 5) r0.b
  let m := m.setIfInBounds (spot 6) r1.b
  let m := m.setIfInBounds (spot 7) r2.b
  let m := m.setIfInBounds (spot 8) r2.c
  let m := m.setIfInBounds (spot 9) r3.c
  let m := m.setIfInBounds (spot 10) r0.c
  let m := m.setIfInBounds (spot 11) r1.c
  let m := m.setIfInBounds (spot 12) r1.d
  let m := m.setIfInBounds (spot 13) r2.d
  let m := m.setIfInBounds (spot 14) r3.d
  m.setIfInBounds (spot 15) r0.d

def permuteRow (m : Block) (row : Nat) : Block := permute (fun i => 16 * row + i) m

def permuteColumn (m : Block) (column : Nat) : Block :=
  permute (fun i => 2 * column + 16 * (i / 2) + i % 2) m

def compress (x y : Block) : Block :=
  let r := x.xor y
  let rows := (List.range 8).foldl permuteRow r
  ((List.range 8).foldl permuteColumn rows).xor r

-- ---------------------------------------------------------------------------
-- Which block is read.

structure Place where
  pass : Nat
  slice : Nat
  lane : Nat
  index : Nat

/-- Whether the blocks to read are chosen without the password. -/
def isIndependent (kind : Kind) (place : Place) : Bool :=
  match kind with
  | .d => false
  | .i => true
  | .id => place.pass = 0 && place.slice < 2

def addresses (kind : Kind) (p : Params) (place : Place) (group : Nat) : Block :=
  let input := #[UInt64.ofNat place.pass, UInt64.ofNat place.lane, UInt64.ofNat place.slice,
    UInt64.ofNat (p.laneLength * p.lanes), UInt64.ofNat p.passes, kind.code,
    UInt64.ofNat (group + 1)] ++ Array.replicate 121 0
  compress zeroBlock (compress zeroBlock input)

/-- The lane and the column that a number chooses. Only what is already filled can be chosen, and
of the lane's own slice not the block before. -/
def chosen (p : Params) (place : Place) (number : UInt64) : Nat × Nat :=
  let low := number.toNat % 0x100000000
  let high := number.toNat / 0x100000000
  let lane := if place.pass = 0 ∧ place.slice = 0 then place.lane else high % p.lanes
  let before := if place.pass = 0 then place.slice * p.sliceLength else p.laneLength - p.sliceLength
  let area :=
    if lane = place.lane then before + place.index - 1
    else if place.index = 0 then before - 1
    else before
  let offset := area - 1 - area * (low * low / 0x100000000) / 0x100000000
  let start := if place.pass = 0 then 0 else (place.slice + 1) * p.sliceLength
  (lane, (start + offset) % p.laneLength)

-- ---------------------------------------------------------------------------
-- Filling the memory.

structure Filling where
  memory : Array Block
  numbers : Block

def fillBlock (kind : Kind) (version : Version) (p : Params) (place : Place) (s : Filling) :
    Filling :=
  let column := place.slice * p.sliceLength + place.index
  let before := if column = 0 then p.laneLength - 1 else column - 1
  let row := place.lane * p.laneLength
  let last := s.memory.getD (row + before) zeroBlock
  let independent := isIndependent kind place
  let numbers :=
    if independent && (place.index % 128 = 0 || (place.pass = 0 && place.slice = 0 && place.index = 2)) then
      addresses kind p place (place.index / 128)
    else s.numbers
  let number := if independent then numbers.getD (place.index % 128) 0 else last.getD 0 0
  let (lane, other) := chosen p place number
  let made := compress last (s.memory.getD (lane * p.laneLength + other) zeroBlock)
  let made :=
    if version = .v19 ∧ place.pass ≠ 0 then made.xor (s.memory.getD (row + column) zeroBlock)
    else made
  ⟨s.memory.setIfInBounds (row + column) made, numbers⟩

def fillSlice (kind : Kind) (version : Version) (p : Params) :
    (count : Nat) → Place → Filling → Filling
  | 0, _, s => s
  | count + 1, place, s =>
    fillSlice kind version p count { place with index := place.index + 1 }
      (fillBlock kind version p place s)

def fill (kind : Kind) (version : Version) (p : Params) (memory : Array Block) : Array Block :=
  (List.range p.passes).foldl (fun memory pass =>
    (List.range slices).foldl (fun memory slice =>
      (List.range p.lanes).foldl (fun memory lane =>
        let first := if pass = 0 ∧ slice = 0 then 2 else 0
        (fillSlice kind version p (p.sliceLength - first) ⟨pass, slice, lane, first⟩
          ⟨memory, zeroBlock⟩).memory) memory) memory) memory

-- ---------------------------------------------------------------------------
-- The hash.

def int32 (n : Nat) : List UInt8 := (Blake2b.wordBytes (UInt64.ofNat n)).take 4

def withLength (bytes : List UInt8) : List UInt8 := int32 bytes.length ++ bytes

/-- A chain of hashes, of each of which the first half counts, and all of the last. -/
def chain (size : Nat) : (links : Nat) → List UInt8 → List UInt8
  | 0, last => blake2b size last
  | links + 1, last =>
    let next := blake2b 64 last
    next.take 32 ++ chain (size - 32) links next

def longHash (size : Nat) (message : List UInt8) : List UInt8 :=
  let message := int32 size ++ message
  if size ≤ 64 then blake2b size message else chain size ((size + 31) / 32 - 2) message

def seed (kind : Kind) (version : Version) (p : Params) (password salt : List UInt8) :
    List UInt8 :=
  blake2b 64 (int32 p.lanes ++ int32 p.size ++ int32 p.memory ++ int32 p.passes ++
    int32 version.number ++ int32 kind.code.toNat ++ withLength password ++ withLength salt ++
    withLength [] ++ withLength p.associated)

def start (p : Params) (seed : List UInt8) : Array Block :=
  (List.range p.lanes).foldl (fun memory lane =>
    (List.range 2).foldl (fun memory column =>
      let bytes := longHash blockBytes (seed ++ int32 column ++ int32 lane)
      memory.setIfInBounds (lane * p.laneLength + column) (Blake2b.toWords bytes).toArray) memory)
    (Array.replicate (p.lanes * p.laneLength) zeroBlock)

def finish (p : Params) (memory : Array Block) : Block :=
  (List.range p.lanes).foldl (fun block lane =>
    block.xor (memory.getD (lane * p.laneLength + (p.laneLength - 1)) zeroBlock)) zeroBlock

def hash (kind : Kind) (version : Version) (p : Params) (password salt : List UInt8) :
    List UInt8 :=
  let memory := fill kind version p (start p (seed kind version p password salt))
  longHash p.size ((finish p memory).toList.flatMap Blake2b.wordBytes)

end KnowledgeGraph.Password.Argon2
