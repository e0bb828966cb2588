/-!
# BLAKE2b

The hash function of RFC 7693, without a key, for results of up to 64 bytes.
-/

namespace KnowledgeGraph.Digest

namespace Blake2b

def blockSize : Nat := 128

def initial : List UInt64 :=
  [0x6a09e667f3bcc908, 0xbb67ae8584caa73b, 0x3c6ef372fe94f82b, 0xa54ff53a5f1d36f1,
    0x510e527fade682d1, 0x9b05688c2b3e6c1f, 0x1f83d9abfb41bd6b, 0x5be0cd19137e2179]

/-- In which order a round takes the words of the message; after ten rounds they recur. -/
def orders : List (List Nat) :=
  [[0, 1, 2, 3, 4, 5, 6, 7, 8, 9, 10, 11, 12, 13, 14, 15],
    [14, 10, 4, 8, 9, 15, 13, 6, 1, 12, 0, 2, 11, 7, 5, 3],
    [11, 8, 12, 0, 5, 2, 15, 13, 10, 14, 3, 6, 7, 1, 9, 4],
    [7, 9, 3, 1, 13, 12, 11, 14, 2, 6, 5, 10, 4, 0, 15, 8],
    [9, 0, 5, 7, 2, 4, 10, 15, 14, 1, 11, 12, 6, 8, 3, 13],
    [2, 12, 6, 10, 0, 11, 8, 3, 4, 13, 7, 5, 15, 14, 1, 9],
    [12, 5, 1, 15, 14, 13, 4, 10, 0, 7, 6, 3, 9, 2, 8, 11],
    [13, 11, 7, 14, 12, 1, 3, 9, 5, 0, 15, 4, 8, 6, 2, 10],
    [6, 15, 14, 9, 11, 3, 0, 8, 12, 2, 13, 7, 1, 4, 10, 5],
    [10, 2, 8, 4, 7, 6, 1, 5, 15, 11, 9, 14, 3, 12, 13, 0],
    [0, 1, 2, 3, 4, 5, 6, 7, 8, 9, 10, 11, 12, 13, 14, 15],
    [14, 10, 4, 8, 9, 15, 13, 6, 1, 12, 0, 2, 11, 7, 5, 3]]

/-- The columns, then the diagonals, of the four by four words that a round mixes. -/
def lanes : List (Nat × Nat × Nat × Nat) :=
  [(0, 4, 8, 12), (1, 5, 9, 13), (2, 6, 10, 14), (3, 7, 11, 15),
    (0, 5, 10, 15), (1, 6, 11, 12), (2, 7, 8, 13), (3, 4, 9, 14)]

@[inline] def rotr (x : UInt64) (n : UInt64) : UInt64 := (x >>> n) ||| (x <<< (64 - n))

def mix (v : Array UInt64) (lane : Nat × Nat × Nat × Nat) (x y : UInt64) : Array UInt64 :=
  let (i, j, k, l) := lane
  let a := v.getD i 0 + v.getD j 0 + x
  let d := rotr (v.getD l 0 ^^^ a) 32
  let c := v.getD k 0 + d
  let b := rotr (v.getD j 0 ^^^ c) 24
  let a := a + b + y
  let d := rotr (d ^^^ a) 16
  let c := c + d
  let b := rotr (b ^^^ c) 63
  ((((v.setIfInBounds i a).setIfInBounds j b).setIfInBounds k c).setIfInBounds l d)

def round (m v : Array UInt64) (order : List Nat) : Array UInt64 :=
  go lanes order v
where
  go : List (Nat × Nat × Nat × Nat) → List Nat → Array UInt64 → Array UInt64
    | lane :: ls, s :: t :: ss, v => go ls ss (mix v lane (m.getD s 0) (m.getD t 0))
    | _, _, v => v

/-- Little-endian words. -/
def toWords : List UInt8 → List UInt64
  | a :: b :: c :: d :: e :: f :: g :: h :: rest =>
    (a.toUInt64 ||| b.toUInt64 <<< 8 ||| c.toUInt64 <<< 16 ||| d.toUInt64 <<< 24 |||
      e.toUInt64 <<< 32 ||| f.toUInt64 <<< 40 ||| g.toUInt64 <<< 48 ||| h.toUInt64 <<< 56) ::
      toWords rest
  | _ => []

def wordBytes (w : UInt64) : List UInt8 :=
  [w.toUInt8, (w >>> 8).toUInt8, (w >>> 16).toUInt8, (w >>> 24).toUInt8,
    (w >>> 32).toUInt8, (w >>> 40).toUInt8, (w >>> 48).toUInt8, (w >>> 56).toUInt8]

/-- Takes in one block, of which the message is `count` bytes long up to its end. -/
def compress (h : List UInt64) (block : List UInt8) (count : Nat) (isLast : Bool) : List UInt64 :=
  let m := (toWords (block ++ List.replicate (blockSize - block.length) (0 : UInt8))).toArray
  let v := (h ++ initial).toArray
  let v := v.modify 12 (· ^^^ UInt64.ofNat count)
  let v := v.modify 13 (· ^^^ UInt64.ofNat (count / 0x10000000000000000))
  let v := if isLast then v.modify 14 (~~~ ·) else v
  let v := (orders.foldl (round m) v).toList
  List.zipWith (· ^^^ ·) h (List.zipWith (· ^^^ ·) (v.take 8) (v.drop 8))

/-- Takes in the rest of a message, whose first `count` bytes are in the state. The fuel is the
number of blocks. -/
def absorb : (fuel : Nat) → (h : List UInt64) → (rest : List UInt8) → (count : Nat) → List UInt64
  | 0, h, _, _ => h
  | fuel + 1, h, rest, count =>
    match rest.drop blockSize with
    | [] => compress h rest (count + rest.length) true
    | after =>
      absorb fuel (compress h (rest.take blockSize) (count + blockSize) false) after
        (count + blockSize)

end Blake2b

open Blake2b in
def blake2b (size : Nat) (message : List UInt8) : List UInt8 :=
  let h := initial.modify 0 (· ^^^ (0x01010000 ^^^ UInt64.ofNat size))
  ((absorb (message.length / blockSize + 1) h message 0).flatMap wordBytes).take size

end KnowledgeGraph.Digest
