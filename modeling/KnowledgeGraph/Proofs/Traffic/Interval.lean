import Mathlib.Data.List.TakeWhile
import KnowledgeGraph.Proofs.Traffic.FixedWindow

/-!
# Requests in an interval

An interval that is no longer than a window meets at most two of a client's windows, wherever these
start. So at most twice as many requests of a client are admitted in it as a window has room for.
-/

namespace KnowledgeGraph.Traffic.Limits

variable {l : Limits}

def admittedWithin (first last : Nat) (p : Nat × Decision) : Bool :=
  first ≤ p.1 && p.1 ≤ last && p.2.isAllowed

/-- So many of the requests at some times are admitted in an interval. -/
def admittedIn (l : Limits) (first last : Nat) (ts : List Nat) : Nat :=
  (ts.zip (l.rule ts)).countP (admittedWithin first last)

def admittedOf (l : Limits) (first last start : Nat) (ts : List Nat) : Nat :=
  (ts.zip (ts.mapIdx (l.inWindow start))).countP (admittedWithin first last)

theorem admittedIn_cons (first last t : Nat) (ts : List Nat) :
    l.admittedIn first last (t :: ts) =
      l.admittedOf first last t (t :: ts.takeWhile (l.isWithin t)) +
        l.admittedIn first last (ts.dropWhile (l.isWithin t)) := by
  have hsplit : t :: ts = (t :: ts.takeWhile (l.isWithin t)) ++ ts.dropWhile (l.isWithin t) := by
    rw [List.cons_append, List.takeWhile_append_dropWhile]
  rw [admittedIn, rule]
  conv => lhs; arg 2; arg 1; rw [hsplit]
  rw [List.zip_append (by rw [List.length_mapIdx]), List.countP_append]
  rfl

theorem admittedOf_le (first last start : Nat) (ts : List Nat) :
    l.admittedOf first last start ts ≤ l.maxRequests := by
  have h (before : Nat) :
      (ts.zip (ts.mapIdx fun i => l.inWindow start (before + i))).countP
        (admittedWithin first last) ≤ l.maxRequests - before := by
    induction ts generalizing before with
    | nil => exact Nat.zero_le _
    | cons t ts ih =>
      have hrest := ih (before + 1)
      rw [List.mapIdx_cons, List.zip_cons_cons, List.countP_cons]
      simp only [Nat.add_zero, ← Nat.add_assoc, Nat.add_right_comm _ _ 1] at hrest ⊢
      by_cases hroom : before < l.maxRequests
      · split <;> omega
      · have hrefused : ¬ admittedWithin first last (t, l.inWindow start before t) := by
          simp [admittedWithin, inWindow, hroom, Decision.isAllowed]
        rw [if_neg hrefused]
        omega
  simpa [admittedOf] using h 0

theorem countP_eq_zero_of_late {first last : Nat} {ps : List (Nat × Decision)}
    (h : ∀ p ∈ ps, last < p.1) : ps.countP (admittedWithin first last) = 0 := by
  refine List.countP_eq_zero.mpr fun p hp => ?_
  have := h p hp
  simp only [admittedWithin, Bool.and_eq_true, decide_eq_true_eq]
  omega

theorem admittedIn_eq_zero {first last : Nat} {ts : List Nat} (h : ∀ t ∈ ts, last < t) :
    l.admittedIn first last ts = 0 :=
  countP_eq_zero_of_late fun _ hp => h _ (List.of_mem_zip hp).1

theorem end_lt_of_mem_dropWhile {start : Nat} {ts : List Nat} (hts : ts.Pairwise (· ≤ ·)) :
    ∀ t ∈ ts.dropWhile (l.isWithin start), start + l.window < t := by
  induction ts with
  | nil => exact List.forall_mem_nil _
  | cons t ts ih =>
    obtain ⟨hfirst, hts⟩ := List.pairwise_cons.mp hts
    cases hw : l.isWithin start t with
    | true =>
      rw [List.dropWhile_cons_of_pos hw]
      exact ih hts
    | false =>
      have hlt : start + l.window < t := by simpa [isWithin] using hw
      rw [List.dropWhile_cons_of_neg (by simp [hw])]
      exact List.forall_mem_cons.mpr ⟨hlt, fun t' ht' => Nat.lt_of_lt_of_le hlt (hfirst t' ht')⟩

/-- An interval that ends with the first window meets no other. -/
theorem admittedIn_le_of_first {ts : List Nat} (hts : ts.Pairwise (· ≤ ·)) {first last : Nat}
    (hlast : ∀ t ∈ ts, last ≤ t + l.window) : l.admittedIn first last ts ≤ l.maxRequests := by
  cases ts with
  | nil => exact Nat.zero_le _
  | cons t ts =>
    obtain ⟨-, hts⟩ := List.pairwise_cons.mp hts
    have hend : last ≤ t + l.window := hlast t (List.mem_cons_self ..)
    have hlater : l.admittedIn first last (ts.dropWhile (l.isWithin t)) = 0 :=
      admittedIn_eq_zero fun t' ht' => Nat.lt_of_le_of_lt hend (end_lt_of_mem_dropWhile hts t' ht')
    rw [admittedIn_cons, hlater]
    exact admittedOf_le ..

/-- An interval that is no longer than a window meets two windows at most: if a request of the first
is in it, it ends before the third opens. -/
theorem admittedIn_le {ts : List Nat} (hts : ts.Pairwise (· ≤ ·)) {first last : Nat}
    (hlength : last ≤ first + l.window) : l.admittedIn first last ts ≤ 2 * l.maxRequests := by
  induction ts using rule.induct l with
  | case1 => exact Nat.zero_le _
  | case2 t ts ih =>
    obtain ⟨hfirst, hts⟩ := List.pairwise_cons.mp hts
    have hlater : ∀ t' ∈ ts.dropWhile (l.isWithin t), t + l.window < t' :=
      end_lt_of_mem_dropWhile hts
    have hsorted : (ts.dropWhile (l.isWithin t)).Pairwise (· ≤ ·) :=
      hts.sublist (List.dropWhile_sublist _)
    rw [admittedIn_cons]
    by_cases hmeets : first ≤ t + l.window
    -- The first window reaches into the interval, which then ends before a third one starts.
    · have hwindow := admittedOf_le (l := l) first last t (t :: ts.takeWhile (l.isWithin t))
      have hlast : ∀ t' ∈ ts.dropWhile (l.isWithin t), last ≤ t' + l.window := by
        intro t' ht'
        have := hlater t' ht'
        omega
      have hnext : l.admittedIn first last (ts.dropWhile (l.isWithin t)) ≤ l.maxRequests :=
        admittedIn_le_of_first hsorted hlast
      omega
    · have hmissed : l.admittedOf first last t (t :: ts.takeWhile (l.isWithin t)) = 0 := by
        refine List.countP_eq_zero.mpr fun p hp => ?_
        have hin : p.1 ≤ t + l.window := by
          rcases List.mem_cons.mp (List.of_mem_zip hp).1 with h | h
          · omega
          · simpa [isWithin] using List.mem_takeWhile_imp h
        simp only [admittedWithin, Bool.and_eq_true, decide_eq_true_eq]
        omega
      rw [hmissed, Nat.zero_add]
      exact ih hsorted

-- ---------------------------------------------------------------------------
-- A client among others
-- ---------------------------------------------------------------------------

theorem zip_timesOf_decisionsOf (client : String) (ws : Windows) (cs : List Check) :
    (timesOf client cs).zip (l.decisionsOf client ws cs) =
      ((cs.zip (l.run ws cs)).filter fun p => p.1.client = client).map
        fun p => (p.1.time, p.2) := by
  symm
  refine List.zip_of_prod ?_ ?_
  · have hfst := List.map_fst_zip (Nat.le_of_eq (length_run (l := l) ws cs).symm)
    rw [List.map_map, timesOf]
    conv => rhs; rw [← hfst]
    rw [List.filter_map, List.map_map]
    rfl
  · rw [List.map_map]
    rfl

theorem countP_run_le {cs : List Check} (hcs : InOrder cs) (client : String) {first last : Nat}
    (hlength : last ≤ first + l.window) :
    (cs.zip (l.run ∅ cs)).countP (fun p => p.1.client = client &&
      admittedWithin first last (p.1.time, p.2)) ≤ 2 * l.maxRequests := by
  have hcount := admittedIn_le (l := l) (pairwise_timesOf client hcs) hlength
  rw [admittedIn, ← decisionsOf_eq_rule hcs client, zip_timesOf_decisionsOf, List.countP_map,
    List.countP_filter] at hcount
  refine Nat.le_trans (Nat.le_of_eq (List.countP_congr fun p _ => ?_)) hcount
  simp [Bool.and_comm]

end KnowledgeGraph.Traffic.Limits
