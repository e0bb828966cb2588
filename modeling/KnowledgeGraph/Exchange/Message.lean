import KnowledgeGraph.Error
import KnowledgeGraph.Exchange.Url
import KnowledgeGraph.Http.Headers
import KnowledgeGraph.Http.Status

/-!
# Requests to other services

What is sent to an embedding or an image service and what it answers. How it is sent is not said
here: a sender takes a request and answers a response, or why there is none.
-/

namespace KnowledgeGraph.Exchange

structure Request where
  method : String
  url : String
  /-- What the sender proves itself with. -/
  bearer : Option String
  /-- Sent as JSON text. -/
  body : Option Json

structure Response where
  status : Nat
  contentType : Option String
  body : ByteArray

def Response.isSuccess (r : Response) : Bool := 200 ≤ r.status && r.status < 300

def Response.text (r : Response) : String := Text.Utf8.lossy r.body.toList

inductive Fault where
  /-- It is none; the address is told if there is one. -/
  | unsendable (url : Option Url)
  | unanswered (url : Url)
  deriving DecidableEq

def Fault.text : Fault → String
  | .unsendable none => "builder error"
  | .unsendable (some url) => "builder error for url (" ++ url.text ++ ")"
  | .unanswered url => "error sending request for url (" ++ url.text ++ ")"

def Request.target (r : Request) : Except Fault Url :=
  match Url.read? r.url with
  | none => .error (.unsendable none)
  | some url =>
    if url.authority.isNone then .error (.unsendable (some url))
    else if !(r.bearer.all fun b => Http.isLegalValue (Text.Utf8.bytes b)) then
      .error (.unsendable none)
    else if url.scheme = "http" ∨ url.scheme = "https" then .ok url
    else .error (.unsendable (some url))

abbrev Sender (m : Type → Type) := Request → Url → m (Except Fault Response)

/-- Sends a request that can be sent; a failure is one of the operation. -/
def Request.send [Monad m] (r : Request) (operation : String) (sender : Sender m) :
    m (Except Failure Response) := do
  match r.target with
  | .error fault => return .error ⟨operation, fault.text⟩
  | .ok url =>
    match ← sender r url with
    | .error fault => return .error ⟨operation, fault.text⟩
    | .ok response => return .ok response

def Response.rejection (r : Response) (operation : String) : Failure :=
  ⟨operation, "endpoint returned status: " ++ Http.statusText r.status ++ " - " ++ r.text⟩

end KnowledgeGraph.Exchange
