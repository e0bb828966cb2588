/-!
# Base64

Six bits to a character, in two alphabets, with or without padding. Reading is strict: the
padding is just as the variant writes it, and bits that no byte needs are zero. An error tells
the first fault and its place.
-/

namespace KnowledgeGraph.Base64

/-- An alphabet's last two characters, and whether the text is padded with `=`. -/
structure Variant where
  char62 : Char
  char63 : Char
  padded : Bool

def standard : Variant := ⟨'+', '/', true⟩

def urlSafe : Variant := ⟨'-', '_', false⟩

def Variant.char (v : Variant) (n : Nat) : Char :=
  if n < 26 then Char.ofNat (65 + n)
  else if n < 52 then Char.ofNat (71 + n)
  else if n < 62 then Char.ofNat (n - 4)
  else if n = 62 then v.char62
  else v.char63

def Variant.value? (v : Variant) (b : UInt8) : Option Nat :=
  let n := b.toNat
  if 65 ≤ n ∧ n ≤ 90 then some (n - 65)
  else if 97 ≤ n ∧ n ≤ 122 then some (n - 71)
  else if 48 ≤ n ∧ n ≤ 57 then some (n + 4)
  else if n = v.char62.toNat then some 62
  else if n = v.char63.toNat then some 63
  else none

def Variant.encode (v : Variant) : List UInt8 → List Char
  | [] => []
  | [a] =>
    let n := a.toNat
    [v.char (n / 4), v.char (n % 4 * 16)] ++ if v.padded then ['=', '='] else []
  | [a, b] =>
    let n := a.toNat * 256 + b.toNat
    [v.char (n / 1024), v.char (n / 16 % 64), v.char (n % 16 * 4)] ++
      if v.padded then ['='] else []
  | a :: b :: c :: rest =>
    let n := a.toNat * 65536 + b.toNat * 256 + c.toNat
    v.char (n / 262144) :: v.char (n / 4096 % 64) :: v.char (n / 64 % 64) :: v.char (n % 64) ::
      v.encode rest

inductive Fault where
  | symbol (byte : UInt8) (offset : Nat)
  | wrongLength (count : Nat)
  | lastSymbol (byte : UInt8) (offset : Nat)
  | padding
  deriving DecidableEq

def Fault.message : Fault → String
  | .symbol byte offset =>
    "Invalid symbol " ++ Nat.repr byte.toNat ++ ", offset " ++ Nat.repr offset ++ "."
  | .wrongLength count => "Invalid input length: " ++ Nat.repr count
  | .lastSymbol byte offset =>
    "Invalid last symbol " ++ Nat.repr byte.toNat ++ ", offset " ++ Nat.repr offset ++ "."
  | .padding => "Invalid padding"

def padByte : UInt8 := 0x3D

def Variant.values (v : Variant) (offset : Nat) : List UInt8 → Except Fault (List Nat)
  | [] => .ok []
  | b :: bs =>
    match v.value? b with
    | none => .error (.symbol b offset)
    | some n => (v.values (offset + 1) bs).map (n :: ·)

/-- The last bytes of a text, of which there are at most four: characters, then padding. -/
def Variant.tail (v : Variant) (offset : Nat) (bytes : List UInt8) : Except Fault (List UInt8) := do
  let chars := bytes.takeWhile (· ≠ padByte)
  let rest := bytes.drop chars.length
  let values ← v.values offset chars
  if !rest.isEmpty && chars.length < 2 then throw (.symbol padByte (offset + chars.length))
  if rest.any (· ≠ padByte) then throw (.symbol padByte (offset + chars.length))
  if bytes.isEmpty then return []
  if chars.length < 2 then throw (.wrongLength (offset + chars.length))
  if if v.padded then bytes.length % 4 ≠ 0 else !rest.isEmpty then throw .padding
  let last := (chars.getLast?).getD 0
  match values with
  | [a, b] =>
    if b % 16 ≠ 0 then throw (.lastSymbol last (offset + 1))
    return [UInt8.ofNat (a * 4 + b / 16)]
  | [a, b, c] =>
    if c % 4 ≠ 0 then throw (.lastSymbol last (offset + 2))
    return [UInt8.ofNat (a * 4 + b / 16), UInt8.ofNat (b % 16 * 16 + c / 4)]
  | [a, b, c, d] =>
    return [UInt8.ofNat (a * 4 + b / 16), UInt8.ofNat (b % 16 * 16 + c / 4),
      UInt8.ofNat (c % 4 * 64 + d)]
  | _ => throw (.wrongLength (offset + values.length))

/-- Decodes from an offset on; the last four characters, and what does not fill four, may hold
padding. -/
def Variant.decodeFrom (v : Variant) (offset : Nat) :
    List UInt8 → Except Fault (List UInt8)
  | a :: b :: c :: d :: e :: rest => do
    let values ← v.values offset [a, b, c, d]
    let n := values.foldl (fun n x => n * 64 + x) 0
    let after ← v.decodeFrom (offset + 4) (e :: rest)
    return UInt8.ofNat (n / 65536) :: UInt8.ofNat (n / 256) :: UInt8.ofNat n :: after
  | bytes => v.tail offset bytes

/-- The bytes that a text stands for. A last byte that is alone in its group and foreign is the
first fault to be told. -/
def Variant.decode (v : Variant) (text : List UInt8) : Except Fault (List UInt8) :=
  match text.length % 4, text.getLast? with
  | 1, some last =>
    if last ≠ padByte ∧ (v.value? last).isNone then .error (.symbol last (text.length - 1))
    else v.decodeFrom 0 text
  | _, _ => v.decodeFrom 0 text

end KnowledgeGraph.Base64
