import KnowledgeGraph.Proofs.Workflow.Errors
import KnowledgeGraph.Proofs.Workflow.Turns

/-!
# Worlds that look alike

Two worlds whose backends answer alike, but for how they say that they failed. A workflow that never
looks at that runs alike in both: it comes to the same result, or fails in both because an operation
failed.
-/

namespace KnowledgeGraph

/-- What backends answer when both do the same or both fail, for whatever reason. -/
def SameOutcome : Except Failure α → Except Failure α → Prop
  | .ok a, .ok a' => a = a'
  | .error _, .error _ => True
  | _, _ => False

/-- Two answers to a call that differ at most in how a backend says that it failed. -/
def Call.Alike : (c : Call) → c.Answer → c.Answer → Prop
  | .query _, a, a' => SameOutcome a a'
  | .command _, a, a' => SameOutcome a a'
  | .embed _, a, a' => SameOutcome a a'
  | .draw _, a, a' => SameOutcome a a'
  | .put _ _ _, a, a' => SameOutcome a a'
  | .get _ _, a, a' => SameOutcome a a'
  | .now, a, a' => a = a'
  | .entropy _, a, a' => a = a'
  | .count _, a, a' => a = a'
  | .counters, a, a' => a = a'
  | .note _ _, a, a' => a = a'

/-- Two worlds, and their states that nobody has seen a difference between: from such states any
call is answered alike, and leads to such states. -/
structure Lookalikes (σ : Type u) (σ' : Type v) where
  first : (c : Call) → σ → c.Answer × σ
  second : (c : Call) → σ' → c.Answer × σ'
  Same : σ → σ' → Prop
  alike : ∀ c x x', Same x x' →
    c.Alike (first c x).1 (second c x').1 ∧ Same (first c x).2 (second c x').2

def Error.Alike (e e' : Error) : Prop := e = e' ∨ (e.IsOperational ∧ e'.IsOperational)

/-- Results that differ at most in why an operation failed. -/
inductive ResultsAlike {α : Type} : Except Error α → Except Error α → Prop where
  | ok (a : α) : ResultsAlike (.ok a) (.ok a)
  | error : e.Alike e' → ResultsAlike (.error e) (.error e')

theorem ResultsAlike.refl (r : Except Error α) : ResultsAlike r r := by
  cases r with
  | ok a => exact .ok a
  | error e => exact .error (.inl rfl)

theorem ResultsAlike.isOk_eq (h : ResultsAlike r r') : r.isOk = r'.isOk := by
  cases h <;> rfl

namespace Lookalikes

open Workflow

variable {W : Lookalikes σ σ'}

def RunAlike (W : Lookalikes σ σ') (w w' : Workflow α) (x : σ) (x' : σ') : Prop :=
  ResultsAlike (w.run W.first x).1 (w'.run W.second x').1 ∧
    W.Same (w.run W.first x).2 (w'.run W.second x').2

/-- A workflow that does not look at how a backend failed. -/
def Blind (W : Lookalikes σ σ') (w : Workflow α) : Prop :=
  ∀ x x', W.Same x x' → W.RunAlike w w x x'

/-- A workflow whose result does not tell how a backend failed. What it leaves in the worlds may. -/
def Discreet (W : Lookalikes σ σ') (w : Workflow α) : Prop :=
  ∀ x x', W.Same x x' → ResultsAlike (w.run W.first x).1 (w.run W.second x').1

theorem Blind.discreet {w : Workflow α} (h : W.Blind w) : W.Discreet w :=
  fun x x' hx => (h x x' hx).1

-- ---------------------------------------------------------------------------
-- One part and the rest
-- ---------------------------------------------------------------------------

theorem blind_ofExcept (r : Except Error α) : W.Blind (ofExcept r) :=
  fun _ _ hx => ⟨.refl r, hx⟩

theorem blind_pure (a : α) : W.Blind (pure a : Workflow α) := blind_ofExcept (.ok a)

theorem blind_refuse (e : Error) : W.Blind (refuse e : Workflow α) := blind_ofExcept (.error e)

theorem blind_lift (r : Except Error α) : W.Blind (liftM r : Workflow α) := blind_ofExcept r

/-- Results that are alike end both runs with the same value or both with an error. -/
theorem runs_of_alike {w : Workflow α}
    (h : ResultsAlike (w.run W.first x).1 (w.run W.second x').1) :
    (∃ a, w.run W.first x = (.ok a, (w.run W.first x).2) ∧
        w.run W.second x' = (.ok a, (w.run W.second x').2)) ∨
      ∃ e e', e.Alike e' ∧ w.run W.first x = (.error e, (w.run W.first x).2) ∧
        w.run W.second x' = (.error e', (w.run W.second x').2) := by
  generalize w.run W.first x = end₁ at h ⊢
  generalize w.run W.second x' = end₂ at h ⊢
  obtain ⟨result, y⟩ := end₁
  obtain ⟨result', y'⟩ := end₂
  cases h with
  | ok a => exact .inl ⟨a, rfl, rfl⟩
  | error he => exact .inr ⟨_, _, he, rfl, rfl⟩

theorem Blind.bind {w : Workflow α} {f : α → Workflow β} (hw : W.Blind w)
    (hf : ∀ a, W.Blind (f a)) : W.Blind (w >>= f) := by
  intro x x' hx
  obtain ⟨hresult, hsame⟩ := hw x x' hx
  unfold RunAlike
  rcases runs_of_alike hresult with ⟨a, hrun, hrun'⟩ | ⟨e, e', he, hrun, hrun'⟩
  · rw [run_bind_of_ok hrun, run_bind_of_ok hrun']
    exact hf a _ _ hsame
  · rw [run_bind_of_error hrun, run_bind_of_error hrun']
    exact ⟨.error he, hsame⟩

theorem Blind.bind_discreet {w : Workflow α} {f : α → Workflow β} (hw : W.Blind w)
    (hf : ∀ a, W.Discreet (f a)) : W.Discreet (w >>= f) := by
  intro x x' hx
  obtain ⟨hresult, hsame⟩ := hw x x' hx
  rcases runs_of_alike hresult with ⟨a, hrun, hrun'⟩ | ⟨e, e', he, hrun, hrun'⟩
  · rw [run_bind_of_ok hrun, run_bind_of_ok hrun']
    exact hf a _ _ hsame
  · rw [run_bind_of_error hrun, run_bind_of_error hrun']
    exact .error he

theorem Discreet.map {w : Workflow α} (h : W.Discreet w) (f : α → β) :
    W.Discreet (w >>= fun a => pure (f a)) := by
  intro x x' hx
  rcases runs_of_alike (h x x' hx) with ⟨a, hrun, hrun'⟩ | ⟨e, e', he, hrun, hrun'⟩
  · rw [run_bind_of_ok hrun, run_bind_of_ok hrun']
    exact .ok (f a)
  · rw [run_bind_of_error hrun, run_bind_of_error hrun']
    exact .error he

/-- Who looks at what an operation came to may not tell two errors of failed operations apart. -/
theorem Blind.attempt_discreet {w : Workflow α} {f : Except Error α → Workflow β}
    (hw : W.Blind w)
    (hf : ∀ r r', ResultsAlike r r' → ∀ y y',
      ResultsAlike ((f r).run W.first y).1 ((f r').run W.second y').1) :
    W.Discreet (w.attempt >>= f) := by
  intro x x' hx
  rw [run_bind_of_ok (run_attempt ..), run_bind_of_ok (run_attempt ..)]
  exact hf _ _ (hw x x' hx).1 _ _

-- ---------------------------------------------------------------------------
-- Calls
-- ---------------------------------------------------------------------------

theorem runAlike_orFail {a a' : Except Failure α} (h : SameOutcome a a') {f : α → Workflow β}
    (hf : ∀ a, W.Blind (f a)) (hx : W.Same x x') :
    W.RunAlike (orFail f a) (orFail f a') x x' := by
  cases a with
  | ok a =>
    cases a' with
    | ok a' =>
      cases h
      exact hf a x x' hx
    | error failure' => cases h
  | error failure =>
    cases a' with
    | ok a' => cases h
    | error failure' =>
      exact ⟨.error (.inr ⟨failure.isOperational_toError, failure'.isOperational_toError⟩), hx⟩

theorem blind_query (st : Graph.Statement) : W.Blind (query st) := fun x x' hx =>
  runAlike_orFail (W.alike (.query st) x x' hx).1 blind_pure (W.alike (.query st) x x' hx).2

theorem blind_embed (text : String) : W.Blind (embed text) := fun x x' hx =>
  runAlike_orFail (W.alike (.embed text) x x' hx).1 blind_pure (W.alike (.embed text) x x' hx).2

theorem blind_draw (prompt : String) : W.Blind (draw prompt) := fun x x' hx =>
  runAlike_orFail (W.alike (.draw prompt) x x' hx).1 blind_pure (W.alike (.draw prompt) x x' hx).2

theorem blind_put (bucket key : String) (o : Asset.Object) : W.Blind (put bucket key o) :=
  fun x x' hx => runAlike_orFail (W.alike (.put bucket key o) x x' hx).1 blind_pure
    (W.alike (.put bucket key o) x x' hx).2

theorem blind_get (bucket key : String) : W.Blind (get bucket key) := by
  intro x x' hx
  refine runAlike_orFail (W.alike (.get bucket key) x x' hx).1 (fun found => ?_)
    (W.alike (.get bucket key) x x' hx).2
  cases found with
  | none => exact blind_refuse _
  | some o => exact blind_pure o

theorem runAlike_pure {a a' : α} (h : a = a') (hx : W.Same x x') :
    W.RunAlike (pure a) (pure a') x x' := h ▸ blind_pure a x x' hx

theorem blind_now : W.Blind now := fun x x' hx =>
  runAlike_pure (W.alike .now x x' hx).1 (W.alike .now x x' hx).2

theorem blind_entropy (n : Nat) : W.Blind (entropy n) := fun x x' hx =>
  runAlike_pure (W.alike (.entropy n) x x' hx).1 (W.alike (.entropy n) x x' hx).2

theorem blind_count (event : Telemetry.Event) : W.Blind (count event) := fun x x' hx =>
  runAlike_pure (W.alike (.count event) x x' hx).1 (W.alike (.count event) x x' hx).2

theorem blind_counters : W.Blind counters := fun x x' hx =>
  runAlike_pure (W.alike .counters x x' hx).1 (W.alike .counters x x' hx).2

theorem blind_note (user text : String) : W.Blind (note user text) := fun x x' hx =>
  runAlike_pure (W.alike (.note user text) x x' hx).1 (W.alike (.note user text) x x' hx).2

end Lookalikes

end KnowledgeGraph
