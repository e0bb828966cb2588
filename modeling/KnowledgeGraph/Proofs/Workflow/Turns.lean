import KnowledgeGraph.Workflow.Checks

/-!
# What a workflow asks

The calls of a run with their answers, and of these the exchanges with the graph store. A run of
a bind is a run of its first part and, if that succeeded, a run of the rest.
-/

namespace KnowledgeGraph

open KnowledgeGraph.Graph (Statement Record)

/-- A call to the graph store, the embedder, the image generator or the object store. -/
def Call.IsBackend : Call → Prop
  | .query _ | .command _ | .embed _ | .draw _ | .put _ _ _ | .get _ _ => True
  | .now | .entropy _ | .count _ | .counters | .note _ _ => False

instance : DecidablePred Call.IsBackend
  | .query _ | .command _ | .embed _ | .draw _ | .put _ _ _ | .get _ _ => .isTrue trivial
  | .now | .entropy _ | .count _ | .counters | .note _ _ => .isFalse id

structure Turn where
  call : Call
  answer : call.Answer

structure Exchange where
  statement : Statement
  answer : Except Failure (List Record)

/-- The exchange with the graph store that a turn was, if any. A command answers no rows. -/
def Turn.exchange? : Turn → Option Exchange
  | ⟨.query st, rows⟩ => some ⟨st, rows⟩
  | ⟨.command st, outcome⟩ => some ⟨st, outcome.map fun _ => []⟩
  | _ => none

namespace Workflow

section
variable (answer : (c : Call) → σ → c.Answer × σ)

def turns : Workflow α → σ → List Turn
  | .done _, _ => []
  | .ask c next, s =>
    let (a, s) := answer c s
    ⟨c, a⟩ :: (next a).turns s

def exchanges (w : Workflow α) (s : σ) : List Exchange :=
  (w.turns answer s).filterMap Turn.exchange?

theorem turns_bind (w : Workflow α) (f : α → Workflow β) (s : σ) :
    (w >>= f).turns answer s = w.turns answer s ++
      match w.run answer s with
      | (.ok a, s) => (f a).turns answer s
      | (.error _, _) => [] := by
  show (bind w f).turns answer s = _
  induction w generalizing s with
  | done r => cases r <;> rfl
  | ask c next ih =>
    simp only [bind, turns, run, List.cons_append]
    rw [ih]

theorem turns_attempt (w : Workflow α) (s : σ) :
    w.attempt.turns answer s = w.turns answer s := by
  induction w generalizing s with
  | done r => rfl
  | ask c next ih => exact congrArg _ (ih ..)

theorem exchanges_bind (w : Workflow α) (f : α → Workflow β) (s : σ) :
    (w >>= f).exchanges answer s = w.exchanges answer s ++
      match w.run answer s with
      | (.ok a, s) => (f a).exchanges answer s
      | (.error _, _) => [] := by
  simp only [exchanges, turns_bind, List.filterMap_append]
  congr 1
  rcases w.run answer s with ⟨_ | _, _⟩ <;> rfl

theorem exchanges_attempt (w : Workflow α) (s : σ) :
    w.attempt.exchanges answer s = w.exchanges answer s := by
  rw [exchanges, turns_attempt, exchanges]

-- ---------------------------------------------------------------------------
-- One part and the rest
-- ---------------------------------------------------------------------------

variable {answer}

theorem run_bind_of_ok {w : Workflow α} (h : w.run answer s = (.ok a, s'))
    (f : α → Workflow β) : (w >>= f).run answer s = (f a).run answer s' := by
  rw [run_bind, h]

theorem run_bind_of_error {w : Workflow α} (h : w.run answer s = (.error e, s'))
    (f : α → Workflow β) : (w >>= f).run answer s = (.error e, s') := by
  rw [run_bind, h]

theorem turns_bind_of_ok {w : Workflow α} (h : w.run answer s = (.ok a, s'))
    (f : α → Workflow β) :
    (w >>= f).turns answer s = w.turns answer s ++ (f a).turns answer s' := by
  rw [turns_bind, h]

theorem exchanges_bind_of_ok {w : Workflow α} (h : w.run answer s = (.ok a, s'))
    (f : α → Workflow β) :
    (w >>= f).exchanges answer s = w.exchanges answer s ++ (f a).exchanges answer s' := by
  rw [exchanges_bind, h]

theorem run_command {st : Statement} (h : answer (.command st) s = (outcome, s')) :
    (command st).run answer s = (outcome.mapError Failure.toError, s') := by
  show (orFail pure (answer (.command st) s).1).run answer (answer (.command st) s).2 = _
  rw [h]
  cases outcome <;> rfl

theorem exchanges_command {st : Statement} (h : answer (.command st) s = (outcome, s')) :
    (command st).exchanges answer s = [⟨st, outcome.map fun _ => []⟩] := by
  show ⟨st, (answer (.command st) s).1.map _⟩ ::
    (orFail pure (answer (.command st) s).1).exchanges answer (answer (.command st) s).2 = _
  rw [h]
  cases outcome <;> rfl

theorem run_now {seconds : Nat} (h : answer .now s = (seconds, s')) :
    now.run answer s = (.ok seconds, s') ∧ now.turns answer s = [⟨.now, seconds⟩] := by
  obtain ⟨rfl, rfl⟩ := Prod.mk.inj h
  exact ⟨rfl, rfl⟩

theorem run_query_bind_of_ok {st : Statement} {f : List Record → Workflow β}
    (h : answer (.query st) s = (.ok rows, s')) :
    (query st >>= f).run answer s = (f rows).run answer s' := by
  show ((orFail pure (answer (.query st) s).1).bind f).run answer (answer (.query st) s).2 = _
  rw [h]
  rfl

theorem run_query_bind_of_error {st : Statement} {f : List Record → Workflow β}
    (h : answer (.query st) s = (.error e, s')) :
    (query st >>= f).run answer s = (.error e.toError, s') := by
  show ((orFail pure (answer (.query st) s).1).bind f).run answer (answer (.query st) s).2 = _
  rw [h]
  rfl

theorem exchanges_query_bind_of_ok {st : Statement} {f : List Record → Workflow β}
    (h : answer (.query st) s = (.ok rows, s')) :
    (query st >>= f).exchanges answer s = ⟨st, .ok rows⟩ :: (f rows).exchanges answer s' := by
  show ⟨st, (answer (.query st) s).1⟩ ::
    ((orFail pure (answer (.query st) s).1).bind f).exchanges answer
      (answer (.query st) s).2 = _
  rw [h]
  rfl

theorem exchanges_query_bind_of_error {st : Statement} {f : List Record → Workflow β}
    (h : answer (.query st) s = (.error e, s')) :
    (query st >>= f).exchanges answer s = [⟨st, .error e⟩] := by
  show ⟨st, (answer (.query st) s).1⟩ ::
    ((orFail pure (answer (.query st) s).1).bind f).exchanges answer
      (answer (.query st) s).2 = _
  rw [h]
  rfl

end

-- ---------------------------------------------------------------------------
-- Traces
-- ---------------------------------------------------------------------------

/-- What a workflow may ask, be answered and come to, whoever answers. -/
inductive Trace {α : Type} : Workflow α → List Turn → Except Error α → Prop where
  | done (r : Except Error α) : Trace (.done r) [] r
  | ask {next : c.Answer → Workflow α} (a : c.Answer) :
      Trace (next a) log r → Trace (.ask c next) (⟨c, a⟩ :: log) r

theorem Trace.of_done (h : (Workflow.done r).Trace log r') : log = [] ∧ r' = r := by
  cases h
  exact ⟨rfl, rfl⟩

theorem Trace.of_ask {next : c.Answer → Workflow α} (h : (Workflow.ask c next).Trace log r) :
    ∃ a log', log = ⟨c, a⟩ :: log' ∧ (next a).Trace log' r := by
  cases h with
  | ask a h => exact ⟨a, _, rfl, h⟩

theorem trace_run (answer : (c : Call) → σ → c.Answer × σ) (w : Workflow α) (s : σ) :
    w.Trace (w.turns answer s) (w.run answer s).1 := by
  induction w generalizing s with
  | done r => exact .done r
  | ask c next ih => exact .ask _ (ih _ _)

-- ---------------------------------------------------------------------------
-- Replays
-- ---------------------------------------------------------------------------

section
variable {answer : (c : Call) → σ → c.Answer × σ}

/-- The backends give these answers one after another, and are in the second state in the end. -/
def Replays (answer : (c : Call) → σ → c.Answer × σ) : List Turn → σ → σ → Prop
  | [], s, s' => s' = s
  | ⟨c, a⟩ :: log, s, s' => (answer c s).1 = a ∧ Replays answer log (answer c s).2 s'

theorem replays_run (w : Workflow α) (s : σ) :
    Replays answer (w.turns answer s) s (w.run answer s).2 := by
  induction w generalizing s with
  | done r => rfl
  | ask c next ih => exact ⟨rfl, ih _ _⟩

theorem replays_append : Replays answer (log ++ log') s s' ↔
    ∃ s₁, Replays answer log s s₁ ∧ Replays answer log' s₁ s' := by
  induction log generalizing s with
  | nil => simp [Replays]
  | cons turn log ih => simp only [List.cons_append, Replays, ih, and_assoc, exists_and_left]

theorem eq_of_replays {view : σ → β} (hview : ∀ turn ∈ log, ∀ s,
    view (answer turn.call s).2 = view s) (h : Replays answer log s s') : view s' = view s := by
  induction log generalizing s with
  | nil => exact congrArg view h
  | cons turn log ih =>
    obtain ⟨hturn, hlog⟩ := List.forall_mem_cons.mp hview
    exact (ih hlog h.2).trans (hturn s)

end

-- ---------------------------------------------------------------------------
-- Workflows that only make calls of a kind
-- ---------------------------------------------------------------------------

/-- Every call that the workflow may make, whatever it is answered, is of a kind. -/
inductive Only {α : Type} (kind : Call → Prop) : Workflow α → Prop where
  | done (r : Except Error α) : Only kind (.done r)
  | ask : kind c → (∀ a, Only kind (next a)) → Only kind (.ask c next)

section
variable {kind : Call → Prop}

theorem only_pure (a : α) : (pure a : Workflow α).Only kind := .done _

theorem only_refuse (e : Error) : (refuse e : Workflow α).Only kind := .done _

theorem only_lift (r : Except Error α) : (liftM r : Workflow α).Only kind := .done r

theorem only_bind {w : Workflow α} {f : α → Workflow β} (hw : w.Only kind)
    (hf : ∀ a, (f a).Only kind) : (w >>= f).Only kind := by
  show (bind w f).Only kind
  induction hw with
  | done r =>
    cases r with
    | ok a => exact hf a
    | error e => exact .done _
  | ask hc _ ih => exact .ask hc ih

theorem only_query {st : Statement} (h : kind (.query st)) : (query st).Only kind :=
  .ask h fun a => by cases a <;> exact .done _

theorem only_count (h : kind (.count e)) : (count e).Only kind := .ask h fun _ => .done _

theorem only_embed (h : kind (.embed text)) : (embed text).Only kind :=
  .ask h fun a => by cases a <;> exact .done _

theorem only_draw (h : kind (.draw prompt)) : (draw prompt).Only kind :=
  .ask h fun a => by cases a <;> exact .done _

theorem only_put (h : kind (.put bucket key o)) : (put bucket key o).Only kind :=
  .ask h fun a => by cases a <;> exact .done _

theorem only_now (h : kind .now) : now.Only kind := .ask h fun _ => .done _

theorem only_entropy (h : kind (.entropy n)) : (entropy n).Only kind := .ask h fun _ => .done _

theorem forall_mem_turns_of_only {answer : (c : Call) → σ → c.Answer × σ} {w : Workflow α}
    (hw : w.Only kind) (s : σ) : ∀ turn ∈ w.turns answer s, kind turn.call := by
  induction hw generalizing s with
  | done r => exact List.forall_mem_nil _
  | ask hc _ ih => exact List.forall_mem_cons.mpr ⟨hc, ih _ _⟩

theorem checked_eq_of_query {checked : Except Error Graph.Statement}
    {f : List Graph.Record → Workflow α} {answer : (c : Call) → σ → c.Answer × σ}
    (hf : ∀ rows kind, (f rows).Only kind)
    (h : .query st ∈ ((do let rows ← query (← checked); f rows : Workflow α).turns
      answer s).map (·.call)) : checked = .ok st := by
  cases checked with
  | error e => cases h
  | ok sent =>
    have honly : (query sent >>= f).Only (· = .query sent) :=
      only_bind (only_query rfl) fun rows => hf rows _
    obtain ⟨turn, hturn, hcall⟩ := List.mem_map.mp h
    cases hcall.symm.trans (forall_mem_turns_of_only honly s turn hturn)
    rfl

end

end Workflow

/-- Backends of which only the graph store does anything. -/
def storeAlone (query : Statement → σ → List Record × σ) : (c : Call) → σ → c.Answer × σ
  | .query st, s => ((query st s).map .ok id)
  | .command st, s => (.ok (), (query st s).2)
  | .embed _, s => (.ok [], s)
  | .draw _, s => (.ok .empty, s)
  | .put _ _ _, s => (.ok (), s)
  | .get _ _, s => (.ok none, s)
  | .now, s => (0, s)
  | .entropy _, s => (.empty, s)
  | .count _, s => ((), s)
  | .counters, s => (default, s)
  | .note _ _, s => ((), s)

def emptyStore : (c : Call) → Unit → c.Answer × Unit := storeAlone fun _ _ => ([], ())

end KnowledgeGraph
