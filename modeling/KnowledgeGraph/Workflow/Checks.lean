import KnowledgeGraph.Text.Blank
import KnowledgeGraph.Workflow.Basic

/-!
# Checks that operations share
-/

namespace KnowledgeGraph

def requireText (value field : String) : Except Error String :=
  match Text.trimmed? value with
  | some t => .ok t
  | none => .error (.invalidInput (field ++ " is required"))

def requireGiven (value : Option String) (field : String) : Except Error String :=
  requireText (value.getD "") field

def requireRows (rows : List Graph.Record) (what : String) : Except Error (List Graph.Record) :=
  if rows.isEmpty then .error (.notFound (what ++ " not found")) else .ok rows

instance : MonadLift (Except Error) Workflow := ⟨Workflow.ofExcept⟩

end KnowledgeGraph
