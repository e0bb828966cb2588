import Mathlib.Logic.Relation
import KnowledgeGraph.Workflow.Basic

/-!
# Workflows side by side

Workflows that share their backends. One of them at a time makes its next call and goes on with
what it is answered; which one is left open, so that what holds of all pools that can be reached
holds however the calls of the workflows interleave.
-/

namespace KnowledgeGraph.Workflow

section
variable (answer : (c : Call) → σ → c.Answer × σ)

inductive Move : Workflow α × σ → Workflow α × σ → Prop where
  | ask (c : Call) (next : c.Answer → Workflow α) (s : σ) :
      Move (.ask c next, s) (next (answer c s).1, (answer c s).2)

/-- One workflow of a pool makes its next call. -/
inductive Step : List (Workflow α) × σ → List (Workflow α) × σ → Prop where
  | move : ws[i]? = some w → Move answer (w, s) (w', s') → Step (ws, s) (ws.set i w', s')

end

section
variable {answer : (c : Call) → σ → c.Answer × σ}

end

end KnowledgeGraph.Workflow
