import Mathlib.Data.List.InsertIdx
import KnowledgeGraph.Proofs.Traffic.Windows

/-!
# The rule of the fixed window

A client's requests fall into windows: the first opens one, those at most its length later belong to
it, and the next opens another. Of each window so many requests are admitted, and the others wait for
its end. This is what becomes of each client, whatever others do meanwhile. If windows have any room,
a refused request might as well not have been made; if they have none, it still opens a window.
-/

namespace KnowledgeGraph.Traffic.Limits

def inWindow (l : Limits) (start before now : Nat) : Decision :=
  if before < l.maxRequests then .allowed (l.maxRequests - 1 - before)
  else .limited (start + l.window - now)

def isWithin (l : Limits) (start now : Nat) : Bool := now ≤ start + l.window

/-- The decisions about one client by the times of its requests. -/
def rule (l : Limits) : List Nat → List Decision
  | [] => []
  | t :: ts =>
    (t :: ts.takeWhile (l.isWithin t)).mapIdx (l.inWindow t) ++ l.rule (ts.dropWhile (l.isWithin t))
termination_by ts => ts.length
decreasing_by exact Nat.lt_succ_of_le (List.dropWhile_suffix _).length_le

variable {l : Limits}

theorem step_within (h : start ≤ now) (hw : l.isWithin start now) (before : Nat) :
    l.step now (some ⟨min before l.maxRequests, start⟩) =
      (l.inWindow start before now, ⟨min (before + 1) l.maxRequests, start⟩) := by
  have hle : now ≤ start + l.window := by simpa [isWithin] using hw
  have hcovers : l.covers now ⟨min before l.maxRequests, start⟩ = true := by
    simp only [covers, decide_eq_true_eq]
    omega
  rw [step, windowAt, if_pos hcovers, Limits.enter, inWindow]
  by_cases hroom : before < l.maxRequests
  · have hmin : min before l.maxRequests = before := by omega
    have hnext : min (before + 1) l.maxRequests = before + 1 := by omega
    rw [hmin, hnext, if_neg (Nat.not_le.mpr hroom), if_pos hroom, Nat.sub_sub, Nat.add_comm 1]
  · have hmin : min before l.maxRequests = l.maxRequests := by omega
    have hnext : min (before + 1) l.maxRequests = l.maxRequests := by omega
    have hafter : l.window - (now - start) = start + l.window - now := by omega
    rw [hmin, hnext, if_pos (Nat.le_refl _), if_neg hroom, hafter]

theorem step_opening (h : l.windowAt now w = ⟨0, now⟩) :
    l.step now w = (l.inWindow now 0 now, ⟨min 1 l.maxRequests, now⟩) := by
  have hself : l.isWithin now now := by simp [isWithin]
  have hopened : l.windowAt now (some ⟨min 0 l.maxRequests, now⟩) = ⟨0, now⟩ := by
    simp [windowAt, covers]
  rw [← step_within (Nat.le_refl now) hself 0, step, step, h, hopened]

theorem windowAt_of_not_within (h : l.isWithin start now = false) (admitted : Nat) :
    l.windowAt now (some ⟨admitted, start⟩) = ⟨0, now⟩ := by
  have hlt : start + l.window < now := by simpa [isWithin] using h
  have hcovers : l.covers now ⟨admitted, start⟩ = false := by
    simp only [covers, decide_eq_false_iff_not]
    omega
  simp [windowAt, hcovers]

/-- In a window, a client that is alone is decided about by how many of its requests came before;
from the end of the window on, by the rule. -/
theorem alone_window {ts : List Nat} (hts : ts.Pairwise (· ≤ ·)) (hstart : ∀ t ∈ ts, start ≤ t)
    (before : Nat) :
    l.alone (some ⟨min before l.maxRequests, start⟩) ts =
      (ts.takeWhile (l.isWithin start)).mapIdx (fun i => l.inWindow start (before + i)) ++
        l.rule (ts.dropWhile (l.isWithin start)) := by
  induction ts generalizing start before with
  | nil => simp [alone, rule]
  | cons t ts ih =>
    obtain ⟨hfirst, hts⟩ := List.pairwise_cons.mp hts
    obtain ⟨ht, hstart⟩ := List.forall_mem_cons.mp hstart
    cases hw : l.isWithin start t with
    | true =>
      rw [alone, step_within ht hw, ih hts hstart (before + 1), List.takeWhile_cons_of_pos hw,
        List.dropWhile_cons_of_pos hw, List.mapIdx_cons]
      simp only [Nat.add_zero, List.cons_append, Nat.add_assoc, Nat.add_comm 1]
    | false =>
      rw [alone, step_opening (windowAt_of_not_within hw _), ih hts hfirst 1,
        List.takeWhile_cons_of_neg (by simp [hw]), List.dropWhile_cons_of_neg (by simp [hw]), rule,
        List.mapIdx_cons]
      simp only [Nat.add_comm 1, List.mapIdx_nil, List.nil_append, List.cons_append]

theorem alone_eq_rule {ts : List Nat} (hts : ts.Pairwise (· ≤ ·)) :
    l.alone none ts = l.rule ts := by
  cases ts with
  | nil => simp [alone, rule]
  | cons t ts =>
    obtain ⟨hfirst, hts⟩ := List.pairwise_cons.mp hts
    rw [alone, step_opening rfl, alone_window hts hfirst 1, rule, List.mapIdx_cons]
    simp only [Nat.add_comm 1, List.cons_append]

theorem pairwise_timesOf (client : String) {cs : List Check} (h : InOrder cs) :
    (timesOf client cs).Pairwise (· ≤ ·) :=
  List.pairwise_map.mpr (h.filter _)

theorem decisionsOf_eq_rule {cs : List Check} (h : InOrder cs) (client : String) :
    l.decisionsOf client ∅ cs = l.rule (timesOf client cs) := by
  have hempty : l.Alike 0 (∅ : Windows)[client]? none := by
    rw [Std.HashMap.getElem?_empty]
    exact .refl _ _
  rw [decisionsOf_eq_alone h (fun _ _ => Nat.zero_le _) hempty,
    alone_eq_rule (pairwise_timesOf client h)]

-- ---------------------------------------------------------------------------
-- Refused requests
-- ---------------------------------------------------------------------------

/-- Without a refused request, the others are decided about as they were. -/
theorem run_eraseIdx (hmax : 0 < l.maxRequests) {cs : List Check} (hcs : InOrder cs) {ws : Windows}
    (hd : (l.run ws cs)[i]? = some d) (hrefused : d.isAllowed = false) :
    l.run ws (cs.eraseIdx i) = (l.run ws cs).eraseIdx i := by
  induction cs generalizing ws i with
  | nil => rfl
  | cons c cs ih =>
    obtain ⟨hfirst, hcs⟩ := List.pairwise_cons.mp hcs
    cases i with
    | zero =>
      cases hd
      refine run_congr hcs hfirst fun client => ?_
      by_cases hclient : client = c.client
      · subst hclient
        rw [getElem?_check_self, step_of_refused hmax (by rwa [← check_fst])]
        exact .refl _ _
      · exact (alike_check_of_ne hclient c.time ws).symm
    | succ i => exact congrArg _ (ih hcs hd)

theorem forall_mem_run_refused (hmax : l.maxRequests = 0) (ws : Windows) (cs : List Check) :
    ∀ d ∈ l.run ws cs, d.isAllowed = false := by
  induction cs generalizing ws with
  | nil => exact List.forall_mem_nil _
  | cons c cs ih =>
    refine List.forall_mem_cons.mpr ⟨?_, ih _⟩
    rw [check_fst, step, Limits.enter, if_pos (by omega)]
    rfl

theorem map_isAllowed_run_eraseIdx {cs : List Check} (hcs : InOrder cs) {ws : Windows}
    (hd : (l.run ws cs)[i]? = some d) (hrefused : d.isAllowed = false) :
    (l.run ws (cs.eraseIdx i)).map Decision.isAllowed =
      ((l.run ws cs).map Decision.isAllowed).eraseIdx i := by
  rcases Nat.eq_zero_or_pos l.maxRequests with hmax | hmax
  · have hfalse (cs : List Check) :
        (l.run ws cs).map Decision.isAllowed = List.replicate cs.length false := by
      rw [← length_run (l := l) ws cs, ← List.length_map (f := Decision.isAllowed)]
      refine List.eq_replicate_of_mem fun b hb => ?_
      obtain ⟨d, hd, rfl⟩ := List.mem_map.mp hb
      exact forall_mem_run_refused hmax ws cs d hd
    have hi : i < cs.length := by
      rw [← length_run (l := l) ws cs]
      exact (List.getElem?_eq_some_iff.mp hd).1
    rw [hfalse, hfalse, List.length_eraseIdx_of_lt hi, List.eraseIdx_replicate, if_pos hi]
  · rw [run_eraseIdx hmax hcs hd hrefused, List.eraseIdx_map]

/-- Each client is decided about by the rule, on the times of its own requests. Without a refused
request the same others are admitted, and if windows have any room, each is told the same. -/
theorem decisions_follow_the_rule (l : Limits) {cs : List Check} (h : InOrder cs) :
    (∀ client, l.decisionsOf client ∅ cs = l.rule (timesOf client cs)) ∧
      ∀ i d, (l.run ∅ cs)[i]? = some d → d.isAllowed = false →
        (l.run ∅ (cs.eraseIdx i)).map Decision.isAllowed =
            ((l.run ∅ cs).map Decision.isAllowed).eraseIdx i ∧
          (0 < l.maxRequests → l.run ∅ (cs.eraseIdx i) = (l.run ∅ cs).eraseIdx i) :=
  ⟨decisionsOf_eq_rule h, fun _ _ hd hrefused =>
    ⟨map_isAllowed_run_eraseIdx h hd hrefused, fun hmax => run_eraseIdx hmax h hd hrefused⟩⟩

def twoClients : List Check := [⟨"ada", 0⟩, ⟨"bob", 3⟩, ⟨"ada", 5⟩, ⟨"bob", 6⟩, ⟨"ada", 6⟩]

theorem twoClients_follow_the_rule :
    InOrder twoClients ∧
      (⟨1, 5⟩ : Limits).decisionsOf "ada" ∅ twoClients = [.allowed 0, .limited 0, .allowed 0] ∧
      (⟨1, 5⟩ : Limits).decisionsOf "bob" ∅ twoClients = [.allowed 0, .limited 2] := by
  have h : InOrder twoClients := by decide
  have hrule := (decisions_follow_the_rule ⟨1, 5⟩ h).1
  refine ⟨h, (hrule "ada").trans ?_, (hrule "bob").trans ?_⟩ <;>
    simp [twoClients, timesOf, rule, isWithin, inWindow]

def askedTwice : List Check := [⟨"ada", 0⟩, ⟨"ada", 4⟩]

/-- Where windows have no room, the first refused request opens the one whose end its client is told
to wait for: the second is told another time to wait than it is without the first. -/
theorem refusal_without_room_opens_a_window :
    InOrder askedTwice ∧ (⟨0, 10⟩ : Limits).run ∅ askedTwice = [.limited 10, .limited 6] ∧
      (⟨0, 10⟩ : Limits).run ∅ (askedTwice.eraseIdx 0) = [.limited 10] := by
  refine ⟨by decide, ?_, ?_⟩
  · rw [askedTwice, run, run, run, check_fst, check_fst, getElem?_check_self,
      Std.HashMap.getElem?_empty]
    rfl
  · rw [askedTwice, List.eraseIdx_cons_zero, run, run, check_fst, Std.HashMap.getElem?_empty]
    rfl

end KnowledgeGraph.Traffic.Limits
