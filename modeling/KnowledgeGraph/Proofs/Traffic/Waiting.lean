import KnowledgeGraph.Proofs.Traffic.Windows

/-!
# Waiting for the end of a window

A refused client is told how long its window still lasts. As the last moment of a window belongs to
it, the client is refused once more if it comes back after just that time, and is admitted from the
next moment on, whatever other clients do meanwhile.
-/

namespace KnowledgeGraph.Traffic

/-- Every window that is known, with its client, is of a kind. -/
def Windows.Each (P : String → Window → Prop) (ws : Windows) : Prop :=
  ∀ (client : String) (w : Window), ws[client]? = some w → P client w

def Windows.OpenedBy (now : Nat) (ws : Windows) : Prop :=
  ∀ (client : String) (w : Window), ws[client]? = some w → w.start ≤ now

theorem Windows.each_empty (P : String → Window → Prop) : Windows.Each P ∅ := by
  intro client w hw
  rw [Std.HashMap.getElem?_empty] at hw
  cases hw

namespace Limits

def windowsAfter (l : Limits) (ws : Windows) (cs : List Check) : Windows :=
  cs.foldl (fun ws c => (l.check c.client c.time ws).2) ws

variable {l : Limits}

theorem windowsAfter_append (ws : Windows) (cs cs' : List Check) :
    l.windowsAfter ws (cs ++ cs') = l.windowsAfter (l.windowsAfter ws cs) cs' :=
  List.foldl_append

-- ---------------------------------------------------------------------------
-- What all windows keep
-- ---------------------------------------------------------------------------

theorem getElem?_of_getElem?_sweep {client : String} {ws : Windows}
    (h : (l.sweep now ws)[client]? = some w) : ws[client]? = some w := by
  unfold sweep at h
  split at h
  · rw [Std.HashMap.getElem?_filter'] at h
    exact (Option.filter_eq_some_iff.1 h).1
  · exact h

section
variable {P : String → Window → Prop} {ws : Windows}

theorem each_sweep (h : ws.Each P) (now : Nat) : (l.sweep now ws).Each P :=
  fun client w hw => h client w (getElem?_of_getElem?_sweep hw)

/-- After a request every window is its client's or was left by the sweep. -/
theorem each_check (h : (l.sweep now ws).Each P) (hown : P client (l.step now ws[client]?).2) :
    Windows.Each P (l.check client now ws).2 := by
  intro other w hw
  by_cases hother : other = client
  · subst hother
    rw [getElem?_check_self] at hw
    cases hw
    exact hown
  · rw [getElem?_check_of_ne hother] at hw
    exact h other w hw

theorem each_windowsAfter (h : ws.Each P) {cs : List Check}
    (hstep : ∀ c ∈ cs, ∀ w, (∀ w', w = some w' → P c.client w') →
      P c.client (l.step c.time w).2) : (l.windowsAfter ws cs).Each P := by
  induction cs generalizing ws with
  | nil => exact h
  | cons c cs ih =>
    obtain ⟨hc, hcs⟩ := List.forall_mem_cons.1 hstep
    exact ih (each_check (each_sweep h c.time) (hc _ (h c.client))) hcs

end

-- ---------------------------------------------------------------------------
-- When windows were opened
-- ---------------------------------------------------------------------------

theorem start_step_le (h : ∀ w', w = some w' → w'.start ≤ now) (ht : t ≤ now) :
    (l.step t w).2.start ≤ now := by
  rw [start_step]
  rcases windowAt_cases l t w with ⟨hw, -⟩ | hw
  · exact h _ hw
  · rw [hw]
    exact ht

theorem openedBy_windowsAfter {ws : Windows} (h : ws.OpenedBy now) {cs : List Check}
    (hcs : ∀ c ∈ cs, c.time ≤ now) : Windows.OpenedBy now (l.windowsAfter ws cs) :=
  each_windowsAfter h fun c hc _ hw => start_step_le hw (hcs c hc)

theorem openedBy_empty (now : Nat) : Windows.OpenedBy now ∅ := Windows.each_empty _

/-- Requests of others leave a client's window as good as it was. -/
theorem alike_windowsAfter {client : String} {cs : List Check}
    (hcs : ∀ c ∈ cs, c.client ≠ client ∧ c.time ≤ now) (ws : Windows) :
    l.Alike now (l.windowsAfter ws cs)[client]? ws[client]? := by
  induction cs generalizing ws with
  | nil => exact .refl _ _
  | cons c cs ih =>
    obtain ⟨⟨hclient, htime⟩, hcs⟩ := List.forall_mem_cons.1 hcs
    exact (ih hcs _).trans ((alike_check_of_ne hclient.symm c.time ws).mono htime)

-- ---------------------------------------------------------------------------
-- Refusals
-- ---------------------------------------------------------------------------

/-- A client is refused in a window without room, and told to wait for its end. -/
theorem exists_window_of_limited (hmax : 0 < l.maxRequests)
    (h : (l.step now w).1 = .limited after) :
    ∃ w', w = some w' ∧ l.maxRequests ≤ w'.admitted ∧ now - w'.start ≤ l.window ∧
      after = l.window - (now - w'.start) := by
  have hfull : l.maxRequests ≤ (l.windowAt now w).admitted := by
    refine Nat.le_of_not_lt fun hroom => ?_
    rw [step, Limits.enter, if_neg (Nat.not_le.2 hroom)] at h
    cases h
  rw [step, Limits.enter, if_pos hfull] at h
  cases h
  unfold windowAt at hfull ⊢
  cases w with
  | none => exact absurd hfull (Nat.not_le.2 hmax)
  | some w' =>
    by_cases hcovers : l.covers now w' = true
    · simp only [hcovers, ↓reduceIte] at hfull ⊢
      exact ⟨w', rfl, hfull, of_decide_eq_true hcovers, rfl⟩
    · simp only [hcovers, Bool.false_eq_true, ↓reduceIte] at hfull
      exact absurd hfull (Nat.not_le.2 hmax)

/-- A client whose window has no room is refused as long as the window lasts. -/
theorem step_of_full {w : Window} (hmax : 0 < l.maxRequests) (hfull : l.maxRequests ≤ w.admitted)
    (hstart : w.start ≤ now) :
    (l.step now (some w)).1 =
      if w.start + l.window < now then .allowed (l.maxRequests - 1)
      else .limited (w.start + l.window - now) := by
  by_cases hover : w.start + l.window < now
  · have hcovers : l.covers now w = false := decide_eq_false (by omega)
    have hroom : ¬ l.maxRequests ≤ 0 := by omega
    simp [step, windowAt, Limits.enter, hcovers, hroom, hover]
  · have hcovers : l.covers now w = true := decide_eq_true (by omega)
    have hafter : l.window - (now - w.start) = w.start + l.window - now := by omega
    simp [step, windowAt, Limits.enter, hcovers, hfull, hover, hafter]

/-- A refused client that is told to wait for some time, and next comes back at a later moment, is
refused up to the end of this time, which is the last moment of its window, and admitted after it.
Others may come and go meanwhile. -/
theorem admitted_only_after_waiting (hmax : 0 < l.maxRequests) {before between : List Check}
    (hbefore : ∀ c ∈ before, c.time ≤ now)
    (hrefused : (l.check client now (l.windowsAfter ∅ before)).1 = .limited after)
    (hbetween : ∀ c ∈ between, c.client ≠ client ∧ c.time ≤ later) (hlater : now ≤ later) :
    (l.check client later (l.windowsAfter ∅ (before ++ ⟨client, now⟩ :: between))).1 =
      if now + after < later then .allowed (l.maxRequests - 1)
      else .limited (now + after - later) := by
  rw [check_fst] at hrefused
  obtain ⟨w, hw, hfull, hcovers, rfl⟩ := exists_window_of_limited hmax hrefused
  have hstart : w.start ≤ now := openedBy_windowsAfter (openedBy_empty now) hbefore client w hw
  have hkept : some (l.step now (l.windowsAfter ∅ before)[client]?).2 = some w := by
    rw [step_of_refused hmax (by rw [hrefused]; rfl), hw]
  have hwindow : l.Alike later (l.windowsAfter ∅ (before ++ ⟨client, now⟩ :: between))[client]?
      (some w) := by
    rw [windowsAfter_append, ← hkept, ← getElem?_check_self]
    exact alike_windowsAfter hbetween _
  have hend : now + (l.window - (now - w.start)) = w.start + l.window := by omega
  rw [check_fst, hwindow.step (Nat.le_refl later), step_of_full hmax hfull (by omega), hend]

def oneInTen : Limits := ⟨1, 10⟩

theorem check_oneInTen (client : String) :
    (oneInTen.check client 4 (oneInTen.windowsAfter ∅ [⟨client, 0⟩])).1 = .limited 6 := by
  rw [check_fst, windowsAfter, List.foldl_cons, List.foldl_nil, getElem?_check_self,
    Std.HashMap.getElem?_empty]
  rfl

theorem ada_is_admitted_after_her_window :
    (oneInTen.check "ada" 4 (oneInTen.windowsAfter ∅ [⟨"ada", 0⟩])).1 = .limited 6 ∧
      (oneInTen.check "ada" 11
        (oneInTen.windowsAfter ∅ [⟨"ada", 0⟩, ⟨"ada", 4⟩, ⟨"bob", 10⟩])).1 = .allowed 0 := by
  have hbefore : ∀ c ∈ [(⟨"ada", 0⟩ : Check)], c.time ≤ 4 := by decide
  have hbetween : ∀ c ∈ [(⟨"bob", 10⟩ : Check)], c.client ≠ "ada" ∧ c.time ≤ 11 := by decide
  have hlast := admitted_only_after_waiting (by decide) hbefore (check_oneInTen "ada") hbetween
    (by decide)
  exact ⟨check_oneInTen "ada", hlast⟩

theorem ada_is_refused_at_the_end_of_her_window :
    (oneInTen.check "ada" 4 (oneInTen.windowsAfter ∅ [⟨"ada", 0⟩])).1 = .limited 6 ∧
      (oneInTen.check "ada" (4 + 6)
        (oneInTen.windowsAfter ∅ [⟨"ada", 0⟩, ⟨"ada", 4⟩])).1 = .limited 0 := by
  refine ⟨check_oneInTen "ada", ?_⟩
  rw [check_fst, windowsAfter, List.foldl_cons, List.foldl_cons, List.foldl_nil,
    getElem?_check_self, getElem?_check_self, Std.HashMap.getElem?_empty]
  rfl

end Limits

end KnowledgeGraph.Traffic
