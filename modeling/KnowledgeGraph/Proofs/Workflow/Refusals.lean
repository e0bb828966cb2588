import KnowledgeGraph.Proofs.Graph.Writing
import KnowledgeGraph.Proofs.Workflow.Errors
import KnowledgeGraph.Proofs.Workflow.Turns

/-!
# Refusals

A workflow is careful if it makes up its mind about the request while it only reads: from the
first statement on that may write, whatever it is answered, it refuses the request no more. What
a careful workflow has sent when it refuses only reads.
-/

namespace KnowledgeGraph

/-- The request is what is wrong, be it with what is on record. That something is missing or does
not work is no refusal. -/
inductive Error.Refuses : Error → Prop where
  | invalidInput (message : String) : Refuses (.invalidInput message)
  | alreadyExists (message : String) : Refuses (.alreadyExists message)
  | similarNodeExists (score : Binary64) : Refuses (.similarNodeExists score)
  | unauthorized (message : String) : Refuses (.unauthorized message)

theorem Error.not_refuses_of_isOperational {e : Error} (h : e.IsOperational) : ¬ e.Refuses := by
  obtain ⟨operation, cause, rfl⟩ := h
  rintro ⟨⟩

theorem Error.not_refuses_notFound (message : String) : ¬ (Error.notFound message).Refuses := by
  rintro ⟨⟩

/-- Hands a statement to the store that may write. -/
def Call.Writes : Call → Prop
  | .query st => st.Writes
  | .command st => st.Writes
  | _ => False

theorem Turn.not_writes_of_exchange? {turn : Turn} (h : turn.exchange? = some x)
    (hc : ¬ turn.call.Writes) : ¬ x.statement.Writes := by
  rcases turn with ⟨call, answer⟩
  cases call <;> cases h <;> exact hc

namespace Workflow

/-- Refuses a request only before the first statement that may write. -/
inductive Careful {α : Type} : Workflow α → Prop where
  | done (r : Except Error α) : Careful (.done r)
  | read {next : c.Answer → Workflow α} : ¬ c.Writes → (∀ a, Careful (next a)) →
      Careful (.ask c next)
  | write {next : c.Answer → Workflow α} : (∀ a, (next a).FailsOnly fun e => ¬ e.Refuses) →
      Careful (.ask c next)

theorem FailsOnly.not_refuses {w : Workflow α} (h : w.FailsOnly Error.IsOperational) :
    w.FailsOnly fun e => ¬ e.Refuses :=
  h.mono fun _ => Error.not_refuses_of_isOperational

theorem careful_pure (a : α) : (pure a : Workflow α).Careful := .done _

theorem careful_refuse (e : Error) : (refuse e : Workflow α).Careful := .done _

theorem careful_of_failsOnly {w : Workflow α} (h : w.FailsOnly fun e => ¬ e.Refuses) :
    w.Careful := by
  cases h with
  | ok a => exact .done _
  | error _ => exact .done _
  | ask hnext => exact .write hnext

theorem careful_query (st : Graph.Statement) : (query st).Careful :=
  careful_of_failsOnly (failsOnly_query st).not_refuses

-- Of the two parts of a bind, either the first does not write or the second does not refuse.

theorem careful_bind_of_only {w : Workflow α} {f : α → Workflow β}
    (hw : w.Only fun c => ¬ c.Writes) (hf : ∀ a, (f a).Careful) : (w >>= f).Careful := by
  show (bind w f).Careful
  induction hw with
  | done r =>
    cases r with
    | ok a => exact hf a
    | error e => exact .done _
  | ask hc _ ih => exact .read hc ih

theorem careful_bind_of_failsOnly {w : Workflow α} {f : α → Workflow β} (hw : w.Careful)
    (hf : ∀ a, (f a).FailsOnly fun e => ¬ e.Refuses) : (w >>= f).Careful := by
  show (bind w f).Careful
  induction hw with
  | done r =>
    cases r with
    | ok a => exact careful_of_failsOnly (hf a)
    | error e => exact .done _
  | read hc _ ih => exact .read hc ih
  | write hnext => exact .write fun a => failsOnly_bind (hnext a) hf

theorem Careful.not_writes_of_run {answer : (c : Call) → σ → c.Answer × σ} {w : Workflow α}
    (h : w.Careful) (hrun : w.run answer s = (.error e, s')) (he : e.Refuses) :
    ∀ x ∈ w.exchanges answer s, ¬ x.statement.Writes := by
  induction h generalizing s with
  | done r => exact List.forall_mem_nil _
  | read hc _ ih =>
    intro x hx
    simp only [exchanges, turns, List.mem_filterMap, List.mem_cons] at hx
    obtain ⟨turn, rfl | hturn, hx⟩ := hx
    · exact Turn.not_writes_of_exchange? hx hc
    · exact ih _ hrun x (List.mem_filterMap.mpr ⟨turn, hturn, hx⟩)
  | write hnext => exact absurd he ((hnext _).error_of_run hrun)

end Workflow

end KnowledgeGraph
