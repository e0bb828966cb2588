/-!
# UTF-8

Reading bytes as text. Each character comes as `some`, and each longest ill-formed piece (one
that could still have become a character when it broke off) as one `none`.
-/

namespace KnowledgeGraph.Text.Utf8

/-- What a leading byte promises: how many bytes follow, which values the first of them may
take, and the bits that the leading byte itself gives. -/
structure Lead where
  more : Nat
  low : UInt8
  high : UInt8
  bits : Nat

def lead? (b : UInt8) : Option Lead :=
  let n := b.toNat
  if 0xC2 ≤ n && n ≤ 0xDF then some ⟨1, 0x80, 0xBF, n - 0xC0⟩
  else if n == 0xE0 then some ⟨2, 0xA0, 0xBF, 0⟩
  else if n == 0xED then some ⟨2, 0x80, 0x9F, 0xD⟩
  else if 0xE1 ≤ n && n ≤ 0xEF then some ⟨2, 0x80, 0xBF, n - 0xE0⟩
  else if n == 0xF0 then some ⟨3, 0x90, 0xBF, 0⟩
  else if 0xF1 ≤ n && n ≤ 0xF3 then some ⟨3, 0x80, 0xBF, n - 0xF0⟩
  else if n == 0xF4 then some ⟨3, 0x80, 0x8F, 4⟩
  else none

def isFollower (b : UInt8) : Bool := 0x80 ≤ b && b ≤ 0xBF

def follow (bits : Nat) (b : UInt8) : Nat := bits * 64 + (b.toNat - 0x80)

def decode : List UInt8 → List (Option Char)
  | [] => []
  | a :: t =>
    if a < 0x80 then some (Char.ofNat a.toNat) :: decode t
    else
      match lead? a with
      | none => none :: decode t
      | some l =>
        match t with
        | [] => [none]
        | b :: t1 =>
          if l.low ≤ b && b ≤ l.high then
            if l.more = 1 then some (Char.ofNat (follow l.bits b)) :: decode t1
            else
              match t1 with
              | [] => [none]
              | c :: t2 =>
                if isFollower c then
                  if l.more = 2 then some (Char.ofNat (follow (follow l.bits b) c)) :: decode t2
                  else
                    match t2 with
                    | [] => [none]
                    | d :: t3 =>
                      if isFollower d then
                        some (Char.ofNat (follow (follow (follow l.bits b) c) d)) :: decode t3
                      else none :: decode (d :: t3)
                else none :: decode (c :: t2)
          else none :: decode (b :: t1)

def text? (bytes : List UInt8) : Option String :=
  ((decode bytes).mapM id).map String.ofList

/-- The text, with U+FFFD for each ill-formed piece. -/
def lossy (bytes : List UInt8) : String :=
  String.ofList ((decode bytes).map (·.getD '\uFFFD'))

def bytes (s : String) : List UInt8 :=
  s.toUTF8.toList

end KnowledgeGraph.Text.Utf8
