import KnowledgeGraph.Workflow.Checks

/-!
# The errors of a workflow

A workflow ends with an error that it makes itself or with the failure of a backend. Where it makes
none of a kind, a run that ends with an error of that kind was ended by someone else.
-/

namespace KnowledgeGraph

/-- An operation failed; nothing is wrong with the request. -/
def Error.IsOperational (e : Error) : Prop :=
  ∃ operation cause, e = .operationFailed operation cause

theorem Failure.isOperational_toError (f : Failure) : f.toError.IsOperational :=
  ⟨f.operation, f.cause, rfl⟩

namespace Workflow

/-- Every error that the workflow may end with, whatever it is answered, is of a kind. -/
inductive FailsOnly {α : Type} (kind : Error → Prop) : Workflow α → Prop where
  | ok (a : α) : FailsOnly kind (.done (.ok a))
  | error : kind e → FailsOnly kind (.done (.error e))
  | ask {next : c.Answer → Workflow α} : (∀ a, FailsOnly kind (next a)) →
      FailsOnly kind (.ask c next)

section
variable {kind : Error → Prop}

theorem failsOnly_pure (a : α) : (pure a : Workflow α).FailsOnly kind := .ok a

theorem failsOnly_lift {r : Except Error α} (h : ∀ e, r = .error e → kind e) :
    (liftM r : Workflow α).FailsOnly kind := by
  cases r with
  | ok a => exact .ok a
  | error e => exact .error (h e rfl)

theorem failsOnly_bind {w : Workflow α} {f : α → Workflow β} (hw : w.FailsOnly kind)
    (hf : ∀ a, (f a).FailsOnly kind) : (w >>= f).FailsOnly kind := by
  show (bind w f).FailsOnly kind
  induction hw with
  | ok a => exact hf a
  | error he => exact .error he
  | ask _ ih => exact .ask ih

theorem failsOnly_query (st : Graph.Statement) :
    (query st).FailsOnly Error.IsOperational := by
  refine .ask fun answer => ?_
  cases answer with
  | ok rows => exact .ok rows
  | error failure => exact .error failure.isOperational_toError

theorem failsOnly_command (st : Graph.Statement) :
    (command st).FailsOnly Error.IsOperational := by
  refine .ask fun answer => ?_
  cases answer with
  | ok _ => exact .ok _
  | error failure => exact .error failure.isOperational_toError

theorem failsOnly_embed (text : String) : (embed text).FailsOnly Error.IsOperational := by
  refine .ask fun answer => ?_
  cases answer with
  | ok embedding => exact .ok embedding
  | error failure => exact .error failure.isOperational_toError

theorem failsOnly_count (event : Telemetry.Event) : (count event).FailsOnly kind :=
  .ask fun _ => .ok ()

theorem FailsOnly.mono {kind' : Error → Prop} {w : Workflow α} (h : w.FailsOnly kind)
    (hkind : ∀ e, kind e → kind' e) : w.FailsOnly kind' := by
  induction h with
  | ok a => exact .ok a
  | error he => exact .error (hkind _ he)
  | ask _ ih => exact .ask ih

theorem FailsOnly.error_of_run {answer : (c : Call) → σ → c.Answer × σ} {w : Workflow α}
    (h : w.FailsOnly kind) (hr : w.run answer s = (.error e, s')) : kind e := by
  induction h generalizing s with
  | ok a => cases hr
  | error he =>
    cases hr
    exact he
  | ask _ ih => exact ih _ hr

/-- An attempt ends with a value, whatever that tells of what was attempted. -/
theorem failsOnly_attempt (w : Workflow α) : w.attempt.FailsOnly kind := by
  induction w with
  | done r => exact .ok r
  | ask c next ih => exact .ask ih

theorem run_attempt (answer : (c : Call) → σ → c.Answer × σ) (w : Workflow α) (s : σ) :
    w.attempt.run answer s = (.ok (w.run answer s).1, (w.run answer s).2) := by
  induction w generalizing s with
  | done r => rfl
  | ask c next ih => exact ih ..

theorem FailsOnly.exists_of_run {w : Workflow α} (h : w.FailsOnly fun _ => False)
    (answer : (c : Call) → σ → c.Answer × σ) (s : σ) :
    ∃ a s', w.run answer s = (.ok a, s') := by
  rcases hr : w.run answer s with ⟨e | a, s'⟩
  · exact (h.error_of_run hr).elim
  · exact ⟨a, s', rfl⟩

end

end Workflow

end KnowledgeGraph
