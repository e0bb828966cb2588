import KnowledgeGraph.Traffic.Limiter

/-!
# A client among others

The windows of all clients are swept now and then. What a sweep forgets is a window that has ended,
after which the client's next request opens a new one either way. So each client is decided about
as if it were alone.
-/

namespace KnowledgeGraph.Traffic

structure Check where
  client : String
  time : Nat
  deriving DecidableEq

abbrev InOrder (checks : List Check) : Prop := checks.Pairwise fun c c' => c.time ≤ c'.time

namespace Limits

/-- The decision about a client's request and the window that it leaves, given the window that was
known of the client. -/
def step (l : Limits) (now : Nat) (w : Option Window) : Decision × Window :=
  l.enter now (l.windowAt now w)

def run (l : Limits) : Windows → List Check → List Decision
  | _, [] => []
  | ws, c :: cs =>
    (l.check c.client c.time ws).1 :: l.run (l.check c.client c.time ws).2 cs

/-- The decisions about a client that is alone, from its window and the times of its requests. -/
def alone (l : Limits) : Option Window → List Nat → List Decision
  | _, [] => []
  | w, t :: ts => (l.step t w).1 :: l.alone (some (l.step t w).2) ts

variable {l : Limits}

theorem length_run (ws : Windows) (cs : List Check) : (l.run ws cs).length = cs.length := by
  induction cs generalizing ws with
  | nil => rfl
  | cons c cs ih => simp only [run, List.length_cons, ih]

-- ---------------------------------------------------------------------------
-- The window of a request
-- ---------------------------------------------------------------------------

theorem windowAt_cases (l : Limits) (now : Nat) (w : Option Window) :
    (w = some (l.windowAt now w) ∧ l.covers now (l.windowAt now w) = true) ∨
      l.windowAt now w = ⟨0, now⟩ := by
  unfold windowAt
  split
  · exact .inr rfl
  · split
    · next w' hcovers => exact .inl ⟨rfl, hcovers⟩
    · exact .inr rfl

theorem start_step (l : Limits) (now : Nat) (w : Option Window) :
    (l.step now w).2.start = (l.windowAt now w).start := by
  rw [step, Limits.enter]
  split <;> rfl

-- ---------------------------------------------------------------------------
-- Windows that no later request can tell apart
-- ---------------------------------------------------------------------------

/-- From a time on, requests fall into the same window. -/
def Alike (l : Limits) (now : Nat) (w w' : Option Window) : Prop :=
  ∀ t, now ≤ t → l.windowAt t w = l.windowAt t w'

theorem Alike.refl (now : Nat) (w : Option Window) : l.Alike now w w := fun _ _ => rfl

theorem Alike.trans (h : l.Alike now w w') (h' : l.Alike now w' w'') : l.Alike now w w'' :=
  fun t ht => (h t ht).trans (h' t ht)

theorem Alike.symm (h : l.Alike now w w') : l.Alike now w' w := fun t ht => (h t ht).symm

theorem Alike.mono (h : l.Alike now w w') (hle : now ≤ now') : l.Alike now' w w' :=
  fun t ht => h t (Nat.le_trans hle ht)

theorem Alike.step (h : l.Alike now w w') (ht : now ≤ t) : l.step t w = l.step t w' := by
  rw [Limits.step, Limits.step, h t ht]

theorem alike_none (h : l.covers now w = false) : l.Alike now (some w) none := by
  intro t ht
  have ht : l.covers t w = false := by
    simp only [covers, decide_eq_false_iff_not] at h ⊢
    omega
  simp [windowAt, ht]

/-- No client can tell that the windows were swept. -/
theorem alike_sweep (now : Nat) (ws : Windows) (client : String) :
    l.Alike now (l.sweep now ws)[client]? ws[client]? := by
  unfold sweep
  split
  · rw [Std.HashMap.getElem?_filter']
    rcases ws[client]? with _ | w
    · exact .refl _ _
    · cases hw : l.covers now w with
      | true =>
        rw [Option.filter_some_pos hw]
        exact .refl _ _
      | false =>
        rw [Option.filter_some_neg (by simp [hw])]
        exact (alike_none hw).symm
  · exact .refl _ _

theorem check_fst (client : String) (now : Nat) (ws : Windows) :
    (l.check client now ws).1 = (l.step now ws[client]?).1 := by
  rw [← (alike_sweep now ws client).step (Nat.le_refl now)]
  rfl

theorem getElem?_check_self (client : String) (now : Nat) (ws : Windows) :
    (l.check client now ws).2[client]? = some (l.step now ws[client]?).2 := by
  rw [← (alike_sweep now ws client).step (Nat.le_refl now)]
  exact Std.HashMap.getElem?_insert_self

theorem getElem?_check_of_ne (h : client ≠ other) (now : Nat) (ws : Windows) :
    (l.check other now ws).2[client]? = (l.sweep now ws)[client]? := by
  refine Std.HashMap.getElem?_insert.trans ?_
  rw [beq_false_of_ne h.symm]
  rfl

/-- A request of another client leaves a client's window as good as it was. -/
theorem alike_check_of_ne (h : client ≠ other) (now : Nat) (ws : Windows) :
    l.Alike now (l.check other now ws).2[client]? ws[client]? := by
  rw [getElem?_check_of_ne h]
  exact alike_sweep now ws client

-- ---------------------------------------------------------------------------
-- Runs
-- ---------------------------------------------------------------------------

def decisionsOf (l : Limits) (client : String) (ws : Windows) (cs : List Check) : List Decision :=
  ((cs.zip (l.run ws cs)).filter fun p => p.1.client = client).map (·.2)

def timesOf (client : String) (cs : List Check) : List Nat :=
  (cs.filter fun c => c.client = client).map (·.time)

/-- A client among others is decided about as if it were alone. -/
theorem decisionsOf_eq_alone {cs : List Check} (hcs : InOrder cs) (hnow : ∀ c ∈ cs, now ≤ c.time)
    {ws : Windows} (h : l.Alike now ws[client]? w) :
    l.decisionsOf client ws cs = l.alone w (timesOf client cs) := by
  induction cs generalizing now ws w with
  | nil => rfl
  | cons c cs ih =>
    obtain ⟨hfirst, hcs⟩ := List.pairwise_cons.mp hcs
    have hc : now ≤ c.time := hnow c (List.mem_cons_self ..)
    by_cases hclient : c.client = client
    · subst hclient
      have hstep : l.step c.time ws[c.client]? = l.step c.time w := h.step hc
      have hafter : l.Alike c.time (l.check c.client c.time ws).2[c.client]?
          (some (l.step c.time w).2) := by
        rw [getElem?_check_self, hstep]
        exact .refl _ _
      have hrest := ih hcs hfirst hafter
      simp only [decisionsOf, timesOf, run, List.zip_cons_cons, List.filter_cons, decide_true,
        ↓reduceIte, List.map_cons, alone, check_fst, hstep] at hrest ⊢
      rw [hrest]
    -- Another client: its check may sweep, but leaves a window that is as good.
    · have hrest := ih hcs hfirst
        ((alike_check_of_ne (Ne.symm hclient) c.time ws).trans (h.mono hc))
      simp only [decisionsOf, timesOf, run, List.zip_cons_cons, List.filter_cons, hclient,
        decide_false, Bool.false_eq_true, ↓reduceIte] at hrest ⊢
      exact hrest

theorem run_congr {cs : List Check} (hcs : InOrder cs) (hnow : ∀ c ∈ cs, now ≤ c.time)
    {ws ws' : Windows} (h : ∀ client : String, l.Alike now ws[client]? ws'[client]?) :
    l.run ws cs = l.run ws' cs := by
  induction cs generalizing now ws ws' with
  | nil => rfl
  | cons c cs ih =>
    obtain ⟨hfirst, hcs⟩ := List.pairwise_cons.mp hcs
    have hc : now ≤ c.time := hnow c (List.mem_cons_self ..)
    have hstep : l.step c.time ws[c.client]? = l.step c.time ws'[c.client]? := (h _).step hc
    have hafter (client : String) : l.Alike c.time (l.check c.client c.time ws).2[client]?
        (l.check c.client c.time ws').2[client]? := by
      by_cases hclient : client = c.client
      · subst hclient
        rw [getElem?_check_self, getElem?_check_self, hstep]
        exact .refl _ _
      · refine (alike_check_of_ne hclient c.time ws).trans ?_
        exact ((h client).mono hc).trans (alike_check_of_ne hclient c.time ws').symm
    simp only [run, check_fst, hstep, ih hcs hfirst hafter]

-- ---------------------------------------------------------------------------
-- Refusals
-- ---------------------------------------------------------------------------

/-- A refusal leaves the window that was known, unless there is no room in any window. -/
theorem step_of_refused (hmax : 0 < l.maxRequests) (h : (l.step now w).1.isAllowed = false) :
    some (l.step now w).2 = w := by
  have hfull : l.maxRequests ≤ (l.windowAt now w).admitted := by
    refine Nat.le_of_not_lt fun hroom => ?_
    simp [step, Limits.enter, Nat.not_le.mpr hroom, Decision.isAllowed] at h
  have hleft : (l.step now w).2 = l.windowAt now w := by
    rw [step, Limits.enter, if_pos hfull]
  rw [hleft]
  unfold windowAt at hfull ⊢
  split at hfull
  · exact absurd hfull (Nat.not_le.mpr hmax)
  · split at hfull
    · rename_i hw
      simp [hw]
    · exact absurd hfull (Nat.not_le.mpr hmax)

end Limits

end KnowledgeGraph.Traffic
