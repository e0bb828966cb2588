import KnowledgeGraph.Json.Writer

/-!
# Errors

Why an operation was refused or did not succeed, the text that says so, and the answer that a
client gets over HTTP. What went wrong behind the service is never part of that answer.
-/

namespace KnowledgeGraph

inductive Error where
  | invalidInput (message : String)
  | notFound (message : String)
  | alreadyExists (message : String)
  | similarNodeExists (score : Binary64)
  | unauthorized (message : String)
  | operationFailed (operation cause : String)
  deriving DecidableEq

structure Failure where
  operation : String
  cause : String
  deriving DecidableEq

def Failure.toError (f : Failure) : Error := .operationFailed f.operation f.cause

namespace Error

def display : Error → String
  | .invalidInput m => "invalid input: " ++ m
  | .notFound m => "not found: " ++ m
  | .alreadyExists m => "already exists: " ++ m
  | .similarNodeExists score => "similar node already exists (score " ++ score.fixedText 3 ++ ")"
  | .unauthorized m => "unauthorized: " ++ m
  | .operationFailed operation cause => "operation '" ++ operation ++ "' failed: " ++ cause

def status : Error → Nat
  | .invalidInput _ => 400
  | .notFound _ => 404
  | .alreadyExists _ => 406
  | .similarNodeExists _ => 409
  | .unauthorized _ => 401
  | .operationFailed _ _ => 500

def message : Error → String
  | .invalidInput m | .notFound m | .alreadyExists m | .unauthorized m => m
  | .similarNodeExists _ => "similar node already exists"
  | .operationFailed _ _ => "internal server error"

/-- The body of the answer: the message, and for a similar node also its score. -/
def body (e : Error) : Json :=
  match e with
  | .similarNodeExists score =>
    .obj [("error", .str e.message),
      ("details", .obj [
        ("message", .str ("A node with a similarity score of " ++ score.plainText ++
          " already exists.")),
        ("score", .float score)]),
      ("score", .float score)]
  | _ => .obj [("error", .str e.message)]

end Error

end KnowledgeGraph
