import KnowledgeGraph.Proofs.Domain.WriteSequence

/-!
# Edits that go well

A valid edit whose statements are all granted sends its whole sequence of writes.
-/

namespace KnowledgeGraph

open Domain
open KnowledgeGraph.Graph (Deed)

/-- The store did what the statement is for: it answered rows, found the domain of an id and
nobody who holds a name, and answered the id of what it created or merged. -/
structure Exchange.Granted (x : Exchange) : Prop where
  rows : ∃ rows, x.answer = .ok rows
  free : ∀ name, x.statement.deed? = some (findByName name) → x.id? = none
  found : ∀ domainId, x.statement.deed? = some (findById domainId) → x.answer ≠ .ok []
  id : ∀ d, x.statement.deed? = some d → d.AnswersId → x.id?.isSome

namespace Domain

-- ---------------------------------------------------------------------------
-- The writes that edits are made of
-- ---------------------------------------------------------------------------

/-- The deed looks nothing up and has no id to answer. -/
def IsPlain : Deed Json → Prop
  | .find .. | .create .. | .createUnder .. | .merge .. => False
  | _ => True

theorem IsPlain.not_answersId {d : Deed Json} (h : IsPlain d) : ¬ d.AnswersId := by
  intro hd
  cases d <;> first | exact h.elim | exact hd.elim

inductive Write.Regular : Write → Prop where
  | plain {d : Deed Json} : IsPlain d → Regular (.plain d)
  | creating {d : Deed Json} (node : Option CreatedNode) : d.AnswersId → Regular (.creating d node)
  | lookupByName (name : String) : Regular (lookupByName name)
  | lookupById (domainId : String) : Regular (lookupById domainId)

theorem forall_mem_inTurn {writes : Nat → α → List Write} {P : Write → Prop}
    (h : ∀ k a, ∀ w ∈ writes k a, P w) (k : Nat) (as : List α) :
    ∀ w ∈ inTurn writes k as, P w := by
  induction as generalizing k with
  | nil => simp [inTurn]
  | cons a as ih =>
    intro w hw
    rcases List.mem_append.mp hw with hw | hw
    · exact h k a w hw
    · exact ih _ w hw

section
variable (ids : Nat → String)

theorem regular_link (d : Demand) (levelId nodeId : String) :
    (Write.plain (d.link levelId nodeId)).Regular :=
  .plain (by trivial)

theorem regular_demandWrites (levelId : String) (k : Nat) (d : Demand) :
    ∀ w ∈ demandWrites ids levelId k d, w.Regular := by
  unfold demandWrites
  split
  · simp [regular_link]
  · simp only [List.mem_cons, List.not_mem_nil, or_false, forall_eq_or_imp, forall_eq]
    exact ⟨.creating _ (by trivial), regular_link d levelId _⟩
  · simp

theorem regular_levelWrites (domainId : String) (k : Nat) (level : Level) :
    ∀ w ∈ levelWrites ids domainId k level, w.Regular := by
  intro w hw
  rcases List.mem_cons.mp hw with rfl | hw
  · exact .creating _ (by trivial)
  · exact forall_mem_inTurn (regular_demandWrites ids (ids k)) _ _ w hw

theorem regular_opening (e : Edit) : ∀ w ∈ e.opening, w.Regular := by
  intro w hw
  cases e with
  | creation c =>
    simp only [Edit.opening, List.mem_cons, List.not_mem_nil, or_false] at hw
    rcases hw with rfl | rfl
    · exact .lookupByName _
    · exact .creating _ (by trivial)
  | update u =>
    simp only [Edit.opening, removalWrites, List.mem_cons, List.mem_append, List.not_mem_nil,
      or_false] at hw
    rcases hw with rfl | hw | rfl | rfl
    · exact .lookupById _
    · split at hw
      · cases hw
      · obtain rfl := List.mem_singleton.mp hw
        exact .plain (by trivial)
    · exact .plain (by trivial)
    · exact .plain (by trivial)

theorem regular_writes (e : Edit) : ∀ w ∈ e.writes ids, w.Regular := by
  intro w hw
  rcases List.mem_append.mp hw with hw | hw
  · exact regular_opening e w hw
  · exact forall_mem_inTurn (regular_levelWrites ids _) _ _ w hw

end

-- ---------------------------------------------------------------------------
-- Granted statements
-- ---------------------------------------------------------------------------

/-- A write whose statement is granted went well. -/
theorem Write.Regular.isCarriedOut {w : Write} (h : w.Regular)
    (hx : x.statement.deed? = some w.deed) (hg : x.Granted) : w.IsCarriedOut x := by
  obtain ⟨rows, hrows⟩ := hg.rows
  cases h with
  | plain _ => exact ⟨hx, rows, hrows, rfl⟩
  | creating node hd =>
    have hid := hg.id _ hx hd
    rw [Exchange.id?, hrows] at hid
    exact ⟨hx, rows, hrows, hid⟩
  | lookupByName name =>
    have hfree := hg.free name hx
    rw [Exchange.id?, hrows] at hfree
    exact ⟨hx, rows, hrows, by simp [Domain.lookupByName, show elementId? rows = none from hfree]⟩
  | lookupById domainId =>
    have hfound := hg.found domainId hx
    rw [hrows] at hfound
    exact ⟨hx, rows, hrows, by simpa [Domain.lookupById] using hfound⟩

theorem CarriedOut.map_deed (h : CarriedOut ws log) :
    log.map (·.statement.deed?) = ws.map fun w => some w.deed := by
  induction h with
  | nil => rfl
  | cons hx _ ih => rw [List.map_cons, List.map_cons, hx.deed, ih]

theorem BrokenOff.exists (h : BrokenOff ws log) :
    ∃ w ∈ ws, ∃ x ∈ log, x.statement.deed? = some w.deed ∧ ¬ w.IsCarriedOut x := by
  induction h with
  | here hs hx => exact ⟨_, .head _, _, .head _, hs, hx⟩
  | later _ _ ih =>
    obtain ⟨w, hw, x, hx, h⟩ := ih
    exact ⟨w, .tail _ hw, x, .tail _ hx, h⟩

end Domain

end KnowledgeGraph
