import KnowledgeGraph.Api.Serving
import KnowledgeGraph.Proofs.Http.Headers

/-!
# Answers of endpoints

Whatever an endpoint answers, its headers say what the body is and how long it may be kept, and
nothing else. All other headers, and the answer to one request too many, come from the layers that
the answer passes on its way back.
-/

namespace KnowledgeGraph

open Http

namespace Workflow

-- ---------------------------------------------------------------------------
-- What a workflow comes to
-- ---------------------------------------------------------------------------

/-- Whatever the workflow is answered, what it comes to is of a kind, if anything. -/
inductive Yields {α : Type} (kind : α → Prop) : Workflow α → Prop where
  | ok : kind a → Yields kind (.done (.ok a))
  | error (e : Error) : Yields kind (.done (.error e))
  | ask {next : c.Answer → Workflow α} : (∀ a, Yields kind (next a)) → Yields kind (.ask c next)

section
variable {kind kind' : β → Prop}

theorem yields_pure (h : kind b) : (pure b : Workflow β).Yields kind := .ok h

theorem yields_bind {f : α → Workflow β} (hf : ∀ a, (f a).Yields kind) (w : Workflow α) :
    (w >>= f).Yields kind := by
  show (bind w f).Yields kind
  induction w with
  | done r =>
    cases r with
    | ok a => exact hf a
    | error e => exact .error e
  | ask c next ih => exact .ask ih

theorem Yields.imp {w : Workflow β} (h : w.Yields kind) (himp : ∀ b, kind b → kind' b) :
    w.Yields kind' := by
  induction h with
  | ok hb => exact .ok (himp _ hb)
  | error e => exact .error e
  | ask _ ih => exact .ask ih

theorem Yields.of_run {answer : (c : Call) → σ → c.Answer × σ} {w : Workflow β}
    (h : w.Yields kind) (hr : w.run answer s = (.ok b, s')) : kind b := by
  induction h generalizing s with
  | ok hb =>
    cases hr
    exact hb
  | error e => cases hr
  | ask _ ih => exact ih _ hr

end

end Workflow

namespace Api

-- ---------------------------------------------------------------------------
-- Plain answers
-- ---------------------------------------------------------------------------

def bodyHeaders : List String := ["content-type", "cache-control"]

structure IsUndressed (res : Response) : Prop where
  status : res.status ≠ 429
  headers : ∀ name, name ∉ bodyHeaders → res.headers.values name = []

theorem isUndressed_of_no_headers {status : Nat} (h : status ≠ 429) (body : Body) :
    IsUndressed ⟨status, [], body⟩ := ⟨h, fun _ _ => rfl⟩

theorem IsUndressed.withText (h : IsUndressed res) (hname : name ∈ bodyHeaders) (value : String) :
    IsUndressed (res.withText name value) where
  status := h.status
  headers other hother := by
    have hne : other ≠ name := fun heq => hother (heq ▸ hname)
    rw [Response.values_withText_of_ne hne, h.headers other hother]

theorem isUndressed_ofJson {status : Nat} (h : status ≠ 429) (j : Json) :
    IsUndressed (.ofJson status j) := (isUndressed_of_no_headers h _).withText (by decide) _

theorem isUndressed_ofText {status : Nat} (h : status ≠ 429) (text : String) :
    IsUndressed (.ofText status text) := (isUndressed_of_no_headers h _).withText (by decide) _

theorem isUndressed_ofError (e : Error) : IsUndressed (.ofError e) := by
  refine isUndressed_ofJson ?_ _
  cases e <;> simp [Error.status]

theorem isUndressed_found (j : Json) : IsUndressed (found j) := isUndressed_ofJson (by decide) j

theorem isUndressed_created (j : Json) : IsUndressed (created j) :=
  isUndressed_ofJson (by decide) j

theorem isUndressed_objectResponse (o : Asset.Object) : IsUndressed (objectResponse o) := by
  unfold objectResponse
  split
  · refine IsUndressed.withText ?_ (by decide) _
    exact (isUndressed_of_no_headers (by decide) _).withText (by decide) _
  · exact isUndressed_ofText (by decide) _

-- ---------------------------------------------------------------------------
-- What an endpoint answers
-- ---------------------------------------------------------------------------

theorem undressed_answerError (e : Error) : (answerError e).Yields IsUndressed := by
  cases e with
  | operationFailed operation cause =>
    exact Workflow.yields_bind (fun _ => Workflow.yields_pure (isUndressed_ofError _)) _
  | _ => exact Workflow.yields_pure (isUndressed_ofError _)

theorem undressed_respond (operation : Workflow α) {encode : α → Response}
    (h : ∀ a, IsUndressed (encode a)) : (respond operation encode).Yields IsUndressed := by
  refine Workflow.yields_bind (fun outcome => ?_) _
  cases outcome with
  | ok a => exact Workflow.yields_pure (h a)
  | error e => exact undressed_answerError e

theorem undressed_answerUpload (s : Service) (r : Request) :
    (answerUpload s r).Yields IsUndressed := by
  unfold answerUpload
  split
  · exact undressed_answerError _
  · split
    · exact Workflow.yields_pure (isUndressed_ofText (by decide) _)
    · exact undressed_respond _ fun _ => isUndressed_found _

theorem undressed_answerProfile (name : String) : (answerProfile name).Yields IsUndressed := by
  unfold answerProfile
  split
  · exact undressed_respond _ fun _ => isUndressed_found _
  · exact Workflow.yields_pure (isUndressed_ofText (by decide) _)

theorem undressed_answer (s : Service) (v : Visit) (e : Endpoint) :
    (s.answer v e).Yields IsUndressed := by
  cases e with
  | root => exact Workflow.yields_pure (isUndressed_found _)
  | health => exact Workflow.yields_bind (fun _ => Workflow.yields_pure (isUndressed_found _)) _
  | metrics =>
    refine Workflow.yields_bind (fun _ => Workflow.yields_pure ?_) _
    exact (isUndressed_of_no_headers (by decide) _).withText (by decide) _
  | readObject => exact undressed_respond _ isUndressed_objectResponse
  | keepObject => exact undressed_answerUpload s v.request
  | profile name => exact undressed_answerProfile name
  | addNode | addRelationship => exact undressed_respond _ fun _ => isUndressed_created _
  | _ => exact undressed_respond _ fun _ => isUndressed_found _

theorem undressed_visit (s : Service) (e : Endpoint) (v : Visit) :
    (s.visit e v).Yields IsUndressed := by
  unfold Service.visit
  split
  · exact undressed_answer s v e
  · exact Workflow.yields_pure (isUndressed_of_no_headers (by decide) _)

theorem undressed_dispatch (s : Service) (r : Request) : (s.dispatch r).Yields IsUndressed := by
  unfold Service.dispatch
  split
  · exact Workflow.yields_pure (isUndressed_of_no_headers (by decide) _)
  · split
    · refine Workflow.yields_bind (fun claims => ?_) _
      cases claims with
      | none => exact Workflow.yields_pure (isUndressed_ofError _)
      | some claims => exact undressed_visit ..
    · exact undressed_visit ..

end Api

end KnowledgeGraph
