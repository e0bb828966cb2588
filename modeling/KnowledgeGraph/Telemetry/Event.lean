/-!
# Events that are counted
-/

namespace KnowledgeGraph.Telemetry

inductive Event where
  | nodeCreated
  | similarNodeRefused
  | accountCreated
  | domainWritten (how : String)
  | operationFailed (operation : String)
  | authorizationRefused (reason : String)
  | rateLimited
  | answered (method : String) (status : Nat)
  deriving DecidableEq

def Event.counter : Event → String × List (String × String)
  | .nodeCreated => ("atlas_nodes_created_total", [])
  | .similarNodeRefused => ("atlas_similar_node_rejections_total", [])
  | .accountCreated => ("atlas_accounts_created_total", [])
  | .domainWritten how => ("atlas_domains_written_total", [("operation", how)])
  | .operationFailed operation => ("atlas_operation_failures_total", [("operation", operation)])
  | .authorizationRefused reason => ("atlas_auth_failures_total", [("reason", reason)])
  | .rateLimited => ("atlas_rate_limit_exceeded_total", [])
  | .answered method status =>
    ("atlas_http_requests_total", [("method", method), ("status", Nat.repr status)])

end KnowledgeGraph.Telemetry
