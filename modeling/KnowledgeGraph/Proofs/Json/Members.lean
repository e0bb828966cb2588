import KnowledgeGraph.Proofs.Outcome
import KnowledgeGraph.Wire.Reader

/-!
# Members of objects

Members that came from outside stand in the order of their keys, each key once. What is looked up
among members that were put together from pairs is what a pair brought.
-/

namespace KnowledgeGraph

theorem lookup_of_mem {pairs : List (String × α)} (hn : (pairs.map (·.1)).Nodup)
    (h : (key, a) ∈ pairs) : pairs.lookup key = some a := by
  obtain ⟨before, after, rfl⟩ := List.append_of_mem h
  rw [List.map_append, List.map_cons] at hn
  have hbefore := (List.nodup_append.mp hn).2.2
  refine List.lookup_eq_some_iff.mpr ⟨before, after, rfl, fun p hp => ?_⟩
  exact bne_iff_ne.mpr (hbefore p.1 (List.mem_map_of_mem hp) key List.mem_cons_self).symm

namespace Json.Members

/-- In the order of the keys, none of which occurs twice. -/
def Sorted (ms : Members) : Prop := (ms.map (·.1)).Pairwise (· < ·)

instance (ms : Members) : Decidable ms.Sorted :=
  inferInstanceAs (Decidable ((ms.map (·.1)).Pairwise (· < ·)))

-- ---------------------------------------------------------------------------
-- Keys
-- ---------------------------------------------------------------------------

theorem mem_keys_insert {ms : Members} :
    name ∈ (ms.insert key value).map (·.1) ↔ name = key ∨ name ∈ ms.map (·.1) := by
  induction ms with
  | nil => simp [insert]
  | cons m ms ih =>
    simp only [insert]
    split
    · next h => simp [h]
    · split
      · simp
      · rw [List.map_cons, List.mem_cons, ih, List.map_cons, List.mem_cons]
        exact or_left_comm

theorem mem_keys_ofPairs {pairs : List (String × Json)} :
    name ∈ (ofPairs pairs).map (·.1) ↔ name ∈ pairs.map (·.1) := by
  have key (ms : Members) :
      name ∈ (pairs.foldl (fun ms p => ms.insert p.1 p.2) ms).map (·.1) ↔
        name ∈ pairs.map (·.1) ∨ name ∈ ms.map (·.1) := by
    induction pairs generalizing ms with
    | nil => simp
    | cons p pairs ih =>
      rw [List.foldl_cons, ih, mem_keys_insert, List.map_cons, List.mem_cons]
      exact or_left_comm.trans or_assoc.symm
  exact (key []).trans (by simp)

theorem Sorted.insert {ms : Members} (h : ms.Sorted) (key : String) (value : Json) :
    (ms.insert key value).Sorted := by
  induction ms with
  | nil => simp [Members.insert, Sorted]
  | cons m ms ih =>
    obtain ⟨k, v⟩ := m
    obtain ⟨hk, hms⟩ := List.pairwise_cons.mp h
    simp only [Members.insert]
    split
    · next he =>
      subst he
      exact h
    · next hne =>
      split
      · next hlt =>
        refine List.pairwise_cons.mpr ⟨fun other hother => ?_, h⟩
        rcases List.mem_cons.mp hother with rfl | hother
        · exact hlt
        · exact String.lt_trans hlt (hk other hother)
      · next hge =>
        have hlt : k < key := String.not_le.mp fun hle =>
          hne (String.le_antisymm (String.not_lt.mp hge) hle)
        refine List.pairwise_cons.mpr ⟨fun other hother => ?_, ih hms⟩
        rcases mem_keys_insert.mp hother with rfl | hother
        · exact hlt
        · exact hk other hother

theorem insert_of_lt {ms : Members} (h : ∀ name ∈ ms.map (·.1), name < key) :
    ms.insert key value = ms ++ [(key, value)] := by
  induction ms with
  | nil => rfl
  | cons m ms ih =>
    obtain ⟨k, v⟩ := m
    obtain ⟨hk, hms⟩ := List.forall_mem_cons.mp h
    rw [insert, if_neg (String.ne_of_lt hk), if_neg (String.lt_asymm hk), ih hms, List.cons_append]

-- ---------------------------------------------------------------------------
-- Lookups
-- ---------------------------------------------------------------------------

theorem get?_map_snd (f : Json → Json) (ms : Members) (key : String) :
    get? key (ms.map fun m => (m.1, f m.2)) = (get? key ms).map f := by
  induction ms with
  | nil => rfl
  | cons m ms ih =>
    by_cases h : m.1 = key
    · simp [get?, h]
    · simpa [get?, h] using ih

theorem get?_foldl_insert_of_notMem {pairs : List (String × Json)}
    (hkey : key ∉ pairs.map (·.1)) (ms : Members) :
    get? key (pairs.foldl (fun ms p => ms.insert p.1 p.2) ms) = get? key ms := by
  induction pairs generalizing ms with
  | nil => rfl
  | cons p pairs ih =>
    simp only [List.map_cons, List.mem_cons, not_or] at hkey
    rw [List.foldl_cons, ih hkey.2, get?_insert, if_neg (Ne.symm hkey.1)]

theorem get?_ofPairs {pairs : List (String × Json)} (hn : (pairs.map (·.1)).Nodup)
    (key : String) : get? key (ofPairs pairs) = pairs.lookup key := by
  suffices ∀ ms : Members, get? key (pairs.foldl (fun ms p => ms.insert p.1 p.2) ms) =
      (pairs.lookup key).or (get? key ms) from (this []).trans (Option.or_none ..)
  induction pairs with
  | nil => exact fun ms => rfl
  | cons p pairs ih =>
    intro ms
    obtain ⟨hp, hpairs⟩ := List.nodup_cons.mp hn
    rw [List.foldl_cons, List.lookup_cons]
    by_cases hkey : key = p.1
    · subst hkey
      rw [get?_foldl_insert_of_notMem hp, get?_insert, if_pos rfl, beq_self_eq_true]
      rfl
    · rw [ih hpairs, get?_insert, if_neg (Ne.symm hkey), beq_false_of_ne hkey]

theorem get?_ofPairs_of_mem {pairs : List (String × Json)} (hn : (pairs.map (·.1)).Nodup)
    (h : (key, value) ∈ pairs) : get? key (ofPairs pairs) = some value := by
  rw [get?_ofPairs hn]
  exact lookup_of_mem hn h

end Json.Members

namespace Wire

open Json.Members (Sorted)

-- ---------------------------------------------------------------------------
-- Objects that came from outside
-- ---------------------------------------------------------------------------

end Wire

end KnowledgeGraph
