import KnowledgeGraph.Proofs.Domain.Names

/-!
# Distinct names

No two domains are to have the same name. Creating a domain looks for its name first, and keeps
names distinct. Updating one does not look, so that names stay distinct exactly as long as no
update gives a domain a name that another one has.
-/

namespace KnowledgeGraph.Domain

-- ---------------------------------------------------------------------------
-- What an edit does to the names
-- ---------------------------------------------------------------------------

section
variable {answer : (c : Call) → σ → c.Answer × σ} {names : σ → Names}

theorem RunsDomains.dropProgress (h : RunsDomains answer names) (removed : List String) (s : σ) :
    ∃ n s', (dropProgress removed).run answer s = (.ok n, s') ∧ names s' = names s := by
  unfold Domain.dropProgress
  split
  · exact ⟨0, s, rfl, rfl⟩
  · obtain ⟨rows, s', ha, hn⟩ := h.deleteProgress removed s
    rw [Workflow.run_query_bind_of_ok ha]
    exact ⟨_, s', rfl, hn⟩

def after (answer : (c : Call) → σ → c.Answer × σ) (s : σ) (edits : List Edit) : σ :=
  edits.foldl (fun s e => (e.workflow.run answer s).2) s

end

end KnowledgeGraph.Domain
