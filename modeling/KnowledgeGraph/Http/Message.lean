import KnowledgeGraph.Error
import KnowledgeGraph.Http.Headers
import KnowledgeGraph.Network.Address

/-!
# Requests and responses
-/

namespace KnowledgeGraph.Http

structure Request where
  method : String
  /-- The path and what follows it. -/
  target : String
  headers : Headers
  body : ByteArray
  peer : Option Network.Address
  /-- When the request came, in nanoseconds of a clock that only goes forward. -/
  arrival : Nat

namespace Request

/-- The target up to what only its sender looks at. -/
def address (r : Request) : List Char := r.target.toList.takeWhile (· ≠ '#')

def path (r : Request) : String := String.ofList (r.address.takeWhile (· ≠ '?'))

def query (r : Request) : List UInt8 :=
  Text.Utf8.bytes (String.ofList ((r.address.dropWhile (· ≠ '?')).drop 1))

end Request

inductive Body where
  | empty
  | json (j : Json)
  | text (s : String)
  | bytes (b : ByteArray)

def Body.toBytes : Body → List UInt8
  | .empty => []
  | .json j => Text.Utf8.bytes j.text
  | .text s => Text.Utf8.bytes s
  | .bytes b => b.toList

structure Response where
  status : Nat
  headers : Headers
  body : Body

namespace Response

def ofStatus (status : Nat) : Response := ⟨status, [], .empty⟩

def withText (r : Response) (name value : String) : Response :=
  { r with headers := r.headers.setText name value }

def ofJson (status : Nat) (j : Json) : Response :=
  Response.withText ⟨status, [], .json j⟩ "content-type" "application/json"

def ofText (status : Nat) (s : String) : Response :=
  Response.withText ⟨status, [], .text s⟩ "content-type" "text/plain; charset=utf-8"

def ofError (e : Error) : Response := .ofJson e.status e.body

end Response

end KnowledgeGraph.Http
