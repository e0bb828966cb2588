import KnowledgeGraph.Config.Settings
import KnowledgeGraph.Password.Scheme
import KnowledgeGraph.Token.Authority

/-!
# The service

What its answers depend on beside the request and the backends. Images are drawn only if there is
a bucket to keep them in.
-/

namespace KnowledgeGraph.Api

structure Service where
  graph : Graph.Settings
  tokens : Token.Authority
  passwords : Password.Scheme
  limits : Traffic.Limits
  origins : List String
  maxBodyBytes : Nat
  bucket : Option String
  drawsImages : Bool
  showsMetrics : Bool

namespace Service

/-- A service with these settings; whether images can be drawn hangs on the backends. -/
def ofSettings (s : Config.Settings) (canDraw showsMetrics : Bool) : Except Error Service := do
  return {
    graph := s.graph
    tokens := ← Token.Authority.ofSettings s.tokens
    passwords := Password.argon2id
    limits := s.limits
    origins := s.server.allowedOrigins
    maxBodyBytes := s.server.maxBodyBytes
    bucket := s.storage.bucket
    drawsImages := canDraw
    showsMetrics }

def imageBucket (s : Service) : Option String := if s.drawsImages then s.bucket else none

end Service

end KnowledgeGraph.Api
