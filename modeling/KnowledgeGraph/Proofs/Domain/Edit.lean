import KnowledgeGraph.Domain.Writing
import KnowledgeGraph.Proofs.Domain.Demands
import KnowledgeGraph.Proofs.Outcome
import KnowledgeGraph.Proofs.Text.Split
import KnowledgeGraph.Proofs.Workflow.Turns

/-!
# Edits of domains

The two requests that write domains, taken together, and what validation asks of them.
-/

namespace KnowledgeGraph

theorem requireText_eq_ok_iff : requireText value field = .ok t ↔ Text.trimmed? value = some t := by
  unfold requireText
  cases Text.trimmed? value <;> simp

namespace Domain

theorem validate_eq_ok_iff {domain : Info} {levels : List Level} :
    validate domain levels = .ok name ↔
      Text.trimmed? domain.name = some name ∧ levels ≠ [] ∧
        ∀ level ∈ levels, ∀ d ∈ level.demands, d.LeadsToNode := by
  simp only [forall_leadsToNode_iff]
  unfold validate
  cases Text.trimmed? domain.name with
  | none => simp [throw, throwThe, MonadExceptOf.throw]
  | some t =>
    by_cases hl : levels = []
    · simp [hl, throw, throwThe, MonadExceptOf.throw, bind, Except.bind]
    by_cases hr : ∀ level ∈ levels, ∀ r ∈ level.requirements.entries, r.isResolvable
    · have hb : (levels.any fun l => l.requirements.entries.any (!·.isResolvable)) = false := by
        simpa using hr
      simp only [hl, hb, pure_eq_ok_iff, List.isEmpty_iff, ↓reduceIte, Option.some.injEq,
        Bool.false_eq_true, ne_eq, not_false_eq_true, true_and]
      exact ⟨fun h => ⟨h, hr⟩, fun h => h.1⟩
    · have hb : (levels.any fun l => l.requirements.entries.any (!·.isResolvable)) = true := by
        simpa using hr
      simp [hl, hb, hr, throw, throwThe, MonadExceptOf.throw, bind, Except.bind]

def elementId? (rows : List Graph.Record) : Option String :=
  rows.head?.bind (·.str? "elementId")

theorem holder?_bind (name : String) (f : Option String → Workflow β) :
    holder? name >>= f = Workflow.query (idByName name) >>= fun rows => f (elementId? rows) := by
  refine congrArg (Workflow.ask (.query (idByName name))) (funext fun answer => ?_)
  cases answer <;> rfl

-- ---------------------------------------------------------------------------
-- The calls that writing makes
-- ---------------------------------------------------------------------------

section
variable {kind : Call → Prop}

end

-- ---------------------------------------------------------------------------
-- Edits
-- ---------------------------------------------------------------------------

inductive Edit where
  | creation (c : Creation)
  | update (u : Update)

namespace Edit

def info : Edit → Info
  | .creation c => c.domain
  | .update u => u.domain

def levels : Edit → List Level
  | .creation c => c.levels
  | .update u => u.levels

def workflow : Edit → Workflow Written
  | .creation c => add c
  | .update u => change u

/-- What passes validation: a request with a name, with levels and with demands that all lead to a
node; if it is an update, also with the id of a domain. -/
structure Valid (e : Edit) : Prop where
  id : ∀ u, e = .update u → (Text.trimmed? u.domainElementId).isSome
  name : (Text.trimmed? e.info.name).isSome
  levels : e.levels ≠ []
  demands : ∀ level ∈ e.levels, ∀ d ∈ level.demands, d.LeadsToNode

theorem Valid.validate {e : Edit} (h : e.Valid) :
    Domain.validate e.info e.levels = .ok (Text.trim e.info.name) := by
  obtain ⟨name, hn⟩ := Option.isSome_iff_exists.mp h.name
  rw [validate_eq_ok_iff, ← Text.trim_of_trimmed? hn]
  exact ⟨hn, h.levels, h.demands⟩

end Edit

-- ---------------------------------------------------------------------------
-- Edits after validation
-- ---------------------------------------------------------------------------

/-- A valid creation looks for the name and, if nobody has it, writes. -/
theorem add_of_valid {c : Creation} (h : (Edit.creation c).Valid) :
    add c = Workflow.query (idByName (Text.trim c.domain.name)) >>= fun rows =>
      if (elementId? rows).isSome then
        Workflow.refuse (.invalidInput "Domain with this name already exists")
      else do
        let rows ← Workflow.query (create (Text.trim c.domain.name) c.domain.description)
        let domainId ← returnedId rows "create_domain"
        let nodes ← writeLevels domainId c.levels
        Workflow.count (.domainWritten "create")
        return ⟨true, ⟨domainId, Text.trim c.domain.name⟩, nodes, none⟩ := by
  unfold add
  rw [show validate c.domain c.levels = .ok (Text.trim c.domain.name) from h.validate]
  exact holder?_bind ..

/-- A valid update looks for the domain and, if it is there, writes. -/
theorem change_of_valid {u : Update} (h : (Edit.update u).Valid) :
    change u = Workflow.query (nameById (Text.trim u.domainElementId)) >>= fun found =>
      if found.isEmpty then Workflow.refuse (.notFound "Domain not found")
      else do
        let affected ← dropProgress (u.removedNodeElementIds.filterMap Text.trimmed?)
        let _ ← Workflow.query
          (rename (Text.trim u.domainElementId) (Text.trim u.domain.name) u.domain.description)
        let _ ← Workflow.query (deleteLevels (Text.trim u.domainElementId))
        let nodes ← writeLevels (Text.trim u.domainElementId) u.levels
        Workflow.count (.domainWritten "update")
        return ⟨true, ⟨Text.trim u.domainElementId, Text.trim u.domain.name⟩, nodes,
          some (Int64.ofInt affected)⟩ := by
  obtain ⟨domainId, hid⟩ := Option.isSome_iff_exists.mp (h.id u rfl)
  obtain rfl := Text.trim_of_trimmed? hid
  unfold change
  rw [requireText_eq_ok_iff.mpr hid,
    show validate u.domain u.levels = .ok (Text.trim u.domain.name) from h.validate]
  rfl

theorem add_of_not_valid {c : Creation} (h : ¬ (Edit.creation c).Valid) :
    ∃ e, add c = Workflow.refuse e := by
  unfold add
  rcases hv : validate c.domain c.levels with e | name
  · exact ⟨e, rfl⟩
  · obtain ⟨hn, hl, hr⟩ := validate_eq_ok_iff.mp hv
    exact absurd ⟨by simp, by simp [Edit.info, hn], hl, hr⟩ h

theorem change_of_not_valid {u : Update} (h : ¬ (Edit.update u).Valid) :
    ∃ e, change u = Workflow.refuse e := by
  unfold change
  rcases hid : requireText u.domainElementId "domainElementId" with e | domainId
  · exact ⟨e, rfl⟩
  rcases hv : validate u.domain u.levels with e | name
  · exact ⟨e, rfl⟩
  · rw [requireText_eq_ok_iff] at hid
    obtain ⟨hn, hl, hr⟩ := validate_eq_ok_iff.mp hv
    refine absurd ⟨?_, by simp [Edit.info, hn], hl, hr⟩ h
    rintro _ ⟨⟩
    simp [hid]

end Domain

end KnowledgeGraph
