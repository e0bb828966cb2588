import Mathlib.Data.Finset.Card
import KnowledgeGraph.Proofs.Traffic.Waiting

/-!
# How many windows are kept

Windows are swept before one is added. So there are never many more than it takes for a sweep, unless
so many clients are active within the length of one window. Nothing of this depends on the order of
the times: a request may come to the limiter late, after one of a later time.
-/

namespace KnowledgeGraph.Traffic.Limits

/-- The clients with a request that was made no longer than a window before a time, or after it. -/
def activeClients (l : Limits) (now : Nat) (cs : List Check) : Finset String :=
  ((cs.filter fun c => now ≤ c.time + l.window).map (·.client)).toFinset

variable {l : Limits}

-- ---------------------------------------------------------------------------
-- One window
-- ---------------------------------------------------------------------------

theorem covers_iff {w : Window} : l.covers now w = true ↔ now ≤ w.start + l.window := by
  simp only [covers, decide_eq_true_eq]
  omega

theorem le_end_step (l : Limits) (now : Nat) (w : Option Window) :
    now ≤ (l.step now w).2.start + l.window := by
  rw [start_step]
  rcases windowAt_cases l now w with ⟨-, hcovers⟩ | hw
  · exact covers_iff.mp hcovers
  · rw [hw]
    exact Nat.le_add_right _ _

theorem admitted_step_le (h : ∀ w', w = some w' → w'.admitted ≤ l.maxRequests) :
    (l.step now w).2.admitted ≤ l.maxRequests := by
  have hwindow : (l.windowAt now w).admitted ≤ l.maxRequests := by
    rcases windowAt_cases l now w with ⟨hw, -⟩ | hw
    · exact h _ hw
    · rw [hw]
      exact Nat.zero_le _
  rw [step, Limits.enter]
  split
  · exact hwindow
  · next hroom => exact Nat.lt_of_not_le hroom

/-- What was admitted and what remains make up the whole window. -/
theorem admitted_add_remaining (h : (l.step now w).1 = .allowed remaining) :
    (l.step now w).2.admitted + remaining = l.maxRequests := by
  unfold step Limits.enter at h ⊢
  split at h
  · cases h
  · next hroom =>
    cases h
    rw [if_neg hroom]
    exact Nat.add_sub_cancel' (Nat.lt_of_not_le hroom)

-- ---------------------------------------------------------------------------
-- All windows
-- ---------------------------------------------------------------------------

theorem admitted_windowsAfter (cs : List Check) :
    (l.windowsAfter ∅ cs).Each fun _ w => w.admitted ≤ l.maxRequests :=
  each_windowsAfter (Windows.each_empty _) fun _ _ _ hw => admitted_step_le hw

theorem opened_windowsAfter (cs : List Check) :
    (l.windowsAfter ∅ cs).Each fun client w => ⟨client, w.start⟩ ∈ cs := by
  refine each_windowsAfter (Windows.each_empty _) fun c hc w hw => ?_
  rw [start_step]
  rcases windowAt_cases l c.time w with ⟨hknown, -⟩ | hopened
  · exact hw _ hknown
  · rw [hopened]
    exact hc

/-- What a sweep leaves has not ended. -/
theorem each_check_of_swept {ws : Windows} (h : sweepThreshold < ws.size) (client : String)
    (now : Nat) :
    Windows.Each (fun _ w => now ≤ w.start + l.window) (l.check client now ws).2 := by
  refine each_check (fun other w hw => ?_) (le_end_step l now _)
  rw [sweep, if_pos h, Std.HashMap.getElem?_filter'] at hw
  exact covers_iff.mp (Option.filter_eq_some_iff.mp hw).2

theorem size_check_le {ws : Windows} (h : ws.size ≤ sweepThreshold) (client : String)
    (now : Nat) : (l.check client now ws).2.size ≤ sweepThreshold + 1 := by
  have hkept : l.sweep now ws = ws := by rw [sweep, if_neg (Nat.not_lt.mpr h)]
  unfold check
  rw [hkept]
  exact Std.HashMap.size_insert_le.trans (Nat.succ_le_succ h)

theorem size_le_card_activeClients {ws : Windows}
    (hopened : ws.Each fun client w => ⟨client, w.start⟩ ∈ cs)
    (hlasting : ws.Each fun _ w => now ≤ w.start + l.window) :
    ws.size ≤ (l.activeClients now cs).card := by
  rw [← Std.HashMap.length_keys, ← List.toFinset_card_of_nodup Std.HashMap.nodup_keys]
  refine Finset.card_le_card fun client hclient => ?_
  rw [List.mem_toFinset, Std.HashMap.mem_keys] at hclient
  obtain ⟨w, hw⟩ := Option.isSome_iff_exists.mp (Std.HashMap.mem_iff_isSome_getElem?.mp hclient)
  rw [activeClients, List.mem_toFinset, List.mem_map]
  refine ⟨⟨client, w.start⟩, List.mem_filter.mpr ⟨hopened client w hw, ?_⟩, rfl⟩
  exact decide_eq_true (hlasting client w hw)

/-- After any requests at any times, no window has more than its share, so that what remains of it is
never less than nothing. Right after a request there are at most 10001 windows, or all of them last
at its time, and there are no more of them than active clients. -/
theorem windows_are_bounded (l : Limits) (cs : List Check) (client : String) (now : Nat) :
    (∀ (other : String) w, (l.windowsAfter ∅ cs)[other]? = some w →
      w.admitted ≤ l.maxRequests) ∧
    (∀ remaining, (l.check client now (l.windowsAfter ∅ cs)).1 = .allowed remaining →
      ∃ w, (l.check client now (l.windowsAfter ∅ cs)).2[client]? = some w ∧
        w.admitted + remaining = l.maxRequests) ∧
    ((l.check client now (l.windowsAfter ∅ cs)).2.size ≤ 10001 ∨
      (∀ (other : String) w, (l.check client now (l.windowsAfter ∅ cs)).2[other]? = some w →
        now ≤ w.start + l.window) ∧
      (l.check client now (l.windowsAfter ∅ cs)).2.size ≤
        (l.activeClients now (cs ++ [⟨client, now⟩])).card) := by
  refine ⟨admitted_windowsAfter cs, fun remaining h => ?_, ?_⟩
  · rw [check_fst] at h
    exact ⟨_, getElem?_check_self .., admitted_add_remaining h⟩
  · rcases Nat.lt_or_ge sweepThreshold (l.windowsAfter ∅ cs).size with hmany | hfew
    · have hlasting := each_check_of_swept (l := l) hmany client now
      have hopened := opened_windowsAfter (l := l) (cs ++ [⟨client, now⟩])
      rw [windowsAfter_append] at hopened
      exact .inr ⟨hlasting, size_le_card_activeClients hopened hlasting⟩
    · exact .inl (size_check_le hfew client now)

end KnowledgeGraph.Traffic.Limits
