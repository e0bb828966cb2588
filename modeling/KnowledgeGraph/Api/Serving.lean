import KnowledgeGraph.Api.Answering
import KnowledgeGraph.Api.Sharing
import KnowledgeGraph.Http.Client

/-!
# Serving

What happens to a request on its way to an endpoint, and to the answer on its way back. A request
of a browser that asks beforehand is answered at once. All others are counted for their client,
and those beyond its limit are refused. Behind that stands the holder's token, and behind the
token the endpoint.
-/

namespace KnowledgeGraph.Api

open Http

inductive Admission where
  | preflight
  | limited (retryAfter : Nat)
  | admitted
  deriving DecidableEq

def client (r : Request) : String := clientKey r.headers r.peer

def isPreflight (r : Request) : Bool := r.method == "OPTIONS"

def Service.receive (s : Service) (r : Request) (ws : Traffic.Windows) :
    Admission × Traffic.Windows :=
  if isPreflight r then (.preflight, ws)
  else
    match s.limits.check (client r) r.arrival ws with
    | (.allowed _, ws) => (.admitted, ws)
    | (.limited after, ws) => (.limited after, ws)

-- ---------------------------------------------------------------------------
-- Endpoints and tokens.

/-- The endpoint of a path. Counts are shown only if they are kept. -/
def Service.endpoint? (s : Service) (path : String) : Option Endpoint :=
  (Endpoint.ofPath? path).filter fun e => s.showsMetrics || e != .metrics

def unauthorized : Response := .ofError (.unauthorized "unauthorized")

def Service.authorize (s : Service) (r : Request) : Workflow (Option Token.Claims) := do
  match r.headers.text? "authorization" with
  | none =>
    Workflow.count (.authorizationRefused "missing")
    return none
  | some value =>
    match s.tokens.validateHeader (← Workflow.now) value with
    | .ok claims => return some claims
    | .error _ =>
      Workflow.count (.authorizationRefused "invalid")
      return none

def Service.visit (s : Service) (e : Endpoint) (v : Visit) : Workflow Response :=
  if e.accepts v.request.method then s.answer v e else return .ofStatus 405

def Service.dispatch (s : Service) (r : Request) : Workflow Response := do
  match s.endpoint? r.path with
  | none => return .ofStatus 404
  | some e =>
    if e.isSecure then
      match ← s.authorize r with
      | some claims => s.visit e ⟨r, some claims⟩
      | none => return unauthorized
    else s.visit e ⟨r, none⟩

-- ---------------------------------------------------------------------------
-- Answers on their way back.

def tooMany (retryAfter : Nat) : Response :=
  (Response.ofJson 429 (.obj [("error", .str "rate limit exceeded")])).withText "retry-after"
    (Nat.repr (max 1 (retryAfter / Traffic.nanosecondsPerSecond)))

def protectiveHeaders : List (String × String) :=
  [("x-content-type-options", "nosniff"), ("x-frame-options", "DENY"),
   ("x-permitted-cross-domain-policies", "none")]

def protect (res : Response) : Response :=
  protectiveHeaders.foldl (fun res (name, value) => res.withText name value) res

def Service.withMethods (s : Service) (r : Request) (res : Response) : Response :=
  match s.endpoint? r.path with
  | some e =>
    if e.accepts r.method then res
    else res.withText "allow" (",".intercalate e.verb.methods)
  | none => res

def onlyHead (r : Request) (res : Response) : Response :=
  if r.method = "HEAD" then { res with body := .empty } else res

def Service.reply (s : Service) (r : Request) : Admission → Workflow Response
  | .preflight => return preflight s.origins r
  | .limited after => do
    Workflow.count .rateLimited
    return share s.origins r (protect (tooMany after))
  | .admitted => do return share s.origins r (protect (← s.dispatch r))

def idHeader : String := "x-request-id"

def Service.track (s : Service) (r : Request) (a : Admission) : Workflow Response := do
  let fresh := idOfBytes (← Workflow.entropy idEntropy).toList
  let context := Context.ofRequest (r.headers.text? idHeader) fresh (client r)
  let res := (← s.reply r a).withText idHeader context.requestId
  Workflow.count (.answered r.method res.status)
  return onlyHead r (s.withMethods r res)

def Service.handle (s : Service) (r : Request) (ws : Traffic.Windows) :
    Workflow Response × Traffic.Windows :=
  let (a, ws) := s.receive r ws
  (s.track r a, ws)

end KnowledgeGraph.Api
