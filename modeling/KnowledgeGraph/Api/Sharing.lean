import KnowledgeGraph.Http.Message

/-!
# Sharing with other origins

Pages of an origin may see answers to requests that carry who sent them if the origin is
configured. No wildcard counts as an origin. A browser asks with `OPTIONS` beforehand, and the
answer to that does not hang on what it asks about.
-/

namespace KnowledgeGraph.Api

open Http

def allowedOrigins (configured : List String) : List (List UInt8) :=
  ((configured.map Text.trim).filter fun o => !o.isEmpty && o != "*").map Text.Utf8.bytes
    |>.filter isLegalValue

/-- The origin of a request, if answers may be shared with it. -/
def sharedOrigin? (configured : List String) (r : Request) : Option (List UInt8) :=
  (r.headers.get? "origin").filter (allowedOrigins configured).contains

def share (configured : List String) (r : Request) (res : Response) : Response :=
  let res := (res.withText "access-control-allow-credentials" "true").withText "vary"
    "origin, access-control-request-method, access-control-request-headers"
  match sharedOrigin? configured r with
  | some o => { res with headers := res.headers.set "access-control-allow-origin" o }
  | none => res

def preflight (configured : List String) (r : Request) : Response :=
  ((share configured r (.ofStatus 200)).withText "access-control-allow-methods"
    "GET,POST,PUT,PATCH,DELETE,OPTIONS").withText "access-control-allow-headers"
    "authorization,accept,content-type"

end KnowledgeGraph.Api
