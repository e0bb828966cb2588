import KnowledgeGraph.Http.Headers
import KnowledgeGraph.Network.Address
import KnowledgeGraph.Text.Split

/-!
# Who sent a request

The client that a request is counted for, and the id that tells it apart from others in what is
logged. Both may be named by the sender.
-/

namespace KnowledgeGraph.Http

def anonymous : String := "anonymous"

def forwardedFor? (hs : Headers) : Option String := do
  let value ← hs.trimmed? "x-forwarded-for"
  let first ← (Text.split ',' value).head?
  Text.trimmed? first

def clientKey (hs : Headers) (peer : Option Network.Address) : String :=
  ((forwardedFor? hs).orElse fun _ =>
    (hs.trimmed? "x-real-ip").orElse fun _ =>
      peer.map fun a => Network.hostText a.host).getD anonymous

-- ---------------------------------------------------------------------------
-- Request ids.

def maxRequestIdLength : Nat := 128

def isAcceptableId (id : String) : Bool :=
  !id.isEmpty && id.utf8ByteSize ≤ maxRequestIdLength &&
    id.toList.all fun c => '!' ≤ c && c ≤ '~'

def idEntropy : Nat := 16

def hexDigits (b : UInt8) : List Char :=
  [Nat.digitChar (b.toNat / 16), Nat.digitChar (b.toNat % 16)]

/-- A random id in groups of hexadecimal digits, with its version and variant. -/
def idOfBytes (bytes : List UInt8) : String :=
  let b (i : Nat) : UInt8 := bytes.getD i 0
  let group (indices : List Nat) := indices.flatMap fun i =>
    hexDigits (if i = 6 then b 6 &&& 0x0F ||| 0x40 else if i = 8 then b 8 &&& 0x3F ||| 0x80 else b i)
  String.ofList (['-'].intercalate
    [group [0, 1, 2, 3], group [4, 5], group [6, 7], group [8, 9], group [10, 11, 12, 13, 14, 15]])

structure Context where
  requestId : String
  client : String
  deriving DecidableEq

def Context.ofRequest (incoming : Option String) (fresh client : String) : Context :=
  match (incoming.map Text.trim).filter isAcceptableId with
  | some id => ⟨id, client⟩
  | none => ⟨fresh, client⟩

end KnowledgeGraph.Http
