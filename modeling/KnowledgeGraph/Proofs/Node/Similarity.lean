import KnowledgeGraph.Node.Reading
import KnowledgeGraph.Proofs.Number.TotalOrder
import KnowledgeGraph.Proofs.Workflow.Turns

/-!
# Similar nodes in order

The rows that a store answers may hold anything in any column. Those with an id and a score are
similar nodes, one for each row; they are put in order by their scores, and those of equal score stay
in the order of their rows.
-/

namespace KnowledgeGraph.Graph

/-- The value beside the first of the names that is `name`. -/
inductive ValueBeside (name : String) (v : Json) : List String → List Json → Prop where
  | here : ValueBeside name v (name :: names) (v :: values)
  | there : other ≠ name → ValueBeside name v names values →
      ValueBeside name v (other :: names) (value :: values)

inductive IsFloat : Json → Binary64 → Prop where
  | whole (n : Int) : IsFloat (.int n) (.ofInt n)
  | float (x : Binary64) : IsFloat (.float x) x

def Record.Column (r : Record) (name : String) (v : Json) : Prop :=
  ValueBeside name v r.keys r.values

theorem Record.get?_eq_some_iff {r : Record} : r.get? name = some v ↔ r.Column name v := by
  obtain ⟨keys, values⟩ := r
  show _ ↔ ValueBeside name v keys values
  induction keys generalizing values with
  | nil => exact ⟨nofun, nofun⟩
  | cons key keys ih =>
    rw [Record.get?_mk_cons]
    split
    · next hkey =>
      subst hkey
      constructor
      · intro h
        cases values with
        | nil => cases h
        | cons value values =>
          cases h
          exact .here
      · rintro (_ | ⟨hne, _⟩)
        · rfl
        · exact absurd rfl hne
    · next hkey =>
      rw [ih]
      constructor
      · intro h
        cases values with
        | nil => cases h
        | cons value values => exact .there hkey h
      · rintro (_ | ⟨_, h⟩)
        · exact absurd rfl hkey
        · exact h

theorem Record.str?_eq_some_iff {r : Record} : r.str? name = some s ↔ r.Column name (.str s) := by
  rw [← get?_eq_some_iff, str?, Option.bind_eq_some_iff]
  constructor
  · rintro ⟨v, hv, hs⟩
    cases v with
    | str s' =>
      cases hs
      exact hv
    | _ => cases hs
  · exact fun h => ⟨_, h, rfl⟩

theorem json_float?_eq_some_iff {v : Json} : v.float? = some x ↔ IsFloat v x := by
  constructor
  · intro h
    cases v with
    | num n =>
      cases h
      cases n with
      | int n => exact .whole n
      | float x => exact .float x
    | _ => cases h
  · rintro (_ | _) <;> rfl

theorem Record.float?_eq_some_iff {r : Record} :
    r.float? name = some x ↔ ∃ v, r.Column name v ∧ IsFloat v x := by
  simp only [float?, Option.bind_eq_some_iff, get?_eq_some_iff, json_float?_eq_some_iff]

end KnowledgeGraph.Graph

namespace KnowledgeGraph.Node

open KnowledgeGraph.Graph

def IsReadable (r : Record) : Prop :=
  (∃ id, r.Column "id" (.str id)) ∧ ∃ v score, r.Column "score" v ∧ IsFloat v score

/-- A similar node that says what is in the columns of a row. -/
structure Similar.Reads (h : Similar) (r : Record) : Prop where
  id : r.Column "id" (.str h.id)
  score : ∃ v, r.Column "score" v ∧ IsFloat v h.score
  name : ∀ text, h.name = some text ↔ r.Column "name" (.str text)
  description : ∀ text, h.description = some text ↔ r.Column "description" (.str text)

/-- One similar node for each readable row, in the order of the rows. -/
inductive Readings : List Record → List Similar → Prop where
  | nil : Readings [] []
  | read : h.Reads r → Readings rows hits → Readings (r :: rows) (h :: hits)
  | skip : ¬ IsReadable r → Readings rows hits → Readings (r :: rows) hits

/-- The same similar nodes in order: no score is above an earlier one, and those of one score stand
as they stood. -/
structure StablySorted (read hits : List Similar) : Prop where
  perm : hits.Perm read
  descending : hits.Pairwise fun a b => b.score.TotalLe a.score
  stable : ∀ score, hits.filter (·.score = score) = read.filter (·.score = score)

-- ---------------------------------------------------------------------------
-- Rows
-- ---------------------------------------------------------------------------

theorem ofRecord?_eq_some_iff : Similar.ofRecord? r = some h ↔ h.Reads r := by
  obtain ⟨name, description, id, score⟩ := h
  simp only [Similar.ofRecord?, Option.bind_eq_bind, Option.bind_eq_some_iff, Option.pure_def,
    Option.some.injEq, Similar.mk.injEq]
  constructor
  · rintro ⟨id, hid, score, hscore, rfl, rfl, rfl, rfl⟩
    exact ⟨Record.str?_eq_some_iff.mp hid, Record.float?_eq_some_iff.mp hscore,
      fun _ => Record.str?_eq_some_iff, fun _ => Record.str?_eq_some_iff⟩
  · intro h
    refine ⟨id, Record.str?_eq_some_iff.mpr h.id, score, Record.float?_eq_some_iff.mpr h.score,
      ?_, ?_, rfl, rfl⟩
    · exact Option.ext fun text => Record.str?_eq_some_iff.trans (h.name text).symm
    · exact Option.ext fun text => Record.str?_eq_some_iff.trans (h.description text).symm

theorem isReadable_iff : IsReadable r ↔ (Similar.ofRecord? r).isSome := by
  constructor
  · rintro ⟨⟨id, hid⟩, v, score, hscore⟩
    rw [Similar.ofRecord?, Record.str?_eq_some_iff.mpr hid,
      Record.float?_eq_some_iff.mpr ⟨v, hscore⟩]
    rfl
  · intro h
    obtain ⟨h, hr⟩ := Option.isSome_iff_exists.mp h
    have hreads := ofRecord?_eq_some_iff.mp hr
    obtain ⟨v, hv⟩ := hreads.score
    exact ⟨⟨_, hreads.id⟩, v, _, hv⟩

theorem readings_filterMap (rows : List Record) :
    Readings rows (rows.filterMap Similar.ofRecord?) := by
  induction rows with
  | nil => exact .nil
  | cons r rows ih =>
    cases hr : Similar.ofRecord? r with
    | none =>
      rw [List.filterMap_cons_none hr]
      refine .skip (fun hreadable => ?_) ih
      rw [isReadable_iff, hr] at hreadable
      cases hreadable
    | some h =>
      rw [List.filterMap_cons_some hr]
      exact .read (ofRecord?_eq_some_iff.mp hr) ih

-- ---------------------------------------------------------------------------
-- Order
-- ---------------------------------------------------------------------------

/-- Elements none of which must stand before another stay as they are. -/
theorem filter_mergeSort {le : α → α → Bool} {p : α → Bool}
    (trans : ∀ a b c, le a b → le b c → le a c) (total : ∀ a b, le a b || le b a)
    (h : ∀ a b, p a → p b → le a b) (xs : List α) :
    (xs.mergeSort le).filter p = xs.filter p := by
  have hpairwise : (xs.filter p).Pairwise fun a b => le a b := by
    refine List.pairwise_of_forall_mem_list fun a ha b hb => ?_
    exact h a b (List.mem_filter.mp ha).2 (List.mem_filter.mp hb).2
  have hsublist : (xs.filter p).Sublist ((xs.mergeSort le).filter p) := by
    have hsorted := List.sublist_mergeSort trans total hpairwise List.filter_sublist
    simpa only [List.filter_filter, Bool.and_self] using hsorted.filter p
  exact (hsublist.eq_of_length ((List.mergeSort_perm xs le).filter p).length_eq.symm).symm

theorem notAfter_iff {a b : Similar} : a.notAfter b ↔ b.score.TotalLe a.score := by
  rw [Similar.notAfter, decide_eq_true_eq, Binary64.rank_le_iff]

theorem stablySorted_mergeSort (read : List Similar) :
    StablySorted read (read.mergeSort Similar.notAfter) := by
  have htrans (a b c : Similar) (hab : a.notAfter b) (hbc : b.notAfter c) : a.notAfter c :=
    notAfter_iff.mpr ((notAfter_iff.mp hbc).trans (notAfter_iff.mp hab))
  have htotal (a b : Similar) : a.notAfter b || b.notAfter a := by
    simp only [Bool.or_eq_true, notAfter_iff]
    exact Binary64.TotalLe.total b.score a.score
  refine ⟨List.mergeSort_perm read _, ?_, fun score => ?_⟩
  · exact (List.pairwise_mergeSort htrans htotal read).imp notAfter_iff.mp
  · refine filter_mergeSort htrans htotal (fun a b ha hb => ?_) read
    rw [decide_eq_true_eq] at ha hb
    rw [Similar.notAfter, ha, hb]
    exact decide_eq_true (Int.le_refl _)

/-- The similar nodes are those of the readable rows that the store answers, sorted stably by their
scores. -/
theorem similar_nodes_are_sorted_stably {q : SimilarityQuery}
    (answer : (c : Call) → σ → c.Answer × σ) (s : σ) (hst : q.statement settings = .ok st)
    (hrows : (answer (.query st) s).1 = .ok rows) :
    ∃ read hits, (findSimilar settings q).run answer s = (.ok hits, (answer (.query st) s).2) ∧
      Readings rows read ∧ StablySorted read hits := by
  refine ⟨_, _, ?_, readings_filterMap rows, stablySorted_mergeSort _⟩
  rw [findSimilar, hst]
  exact Workflow.run_query_bind_of_ok (Prod.ext hrows rfl)

-- ---------------------------------------------------------------------------
-- Rows that say too little, and equals
-- ---------------------------------------------------------------------------

def mixedRows : List Record :=
  [.ofPairs [("name", .str "A"), ("id", .str "a"), ("score", .nat 1)],
    .ofPairs [("id", .nat 5), ("score", .nat 9)],
    .ofPairs [("name", .nat 7), ("id", .str "b"), ("score", .float (.ofInt 1))],
    .ofPairs [("score", .nat 2), ("id", .str "c"), ("id", .nat 5)]]

def likeNode : SimilarityQuery := ⟨some "n", none, none⟩

theorem mixedRows_are_sorted_stably :
    ∃ st read hits, likeNode.statement {} = .ok st ∧
      (findSimilar {} likeNode).run (storeAlone fun _ s => (mixedRows, s)) () = (.ok hits, ()) ∧
      Readings mixedRows read ∧ StablySorted read hits ∧
      hits.map (fun h => (h.id, h.name)) = [("c", none), ("a", some "A"), ("b", none)] := by
  have hst : likeNode.statement {} = .ok (similarToNode "nodeEmbeddings" "n" 5) := rfl
  obtain ⟨read, hits, hrun, hread, hsorted⟩ := similar_nodes_are_sorted_stably
    (storeAlone fun _ s => (mixedRows, s)) () hst rfl
  refine ⟨_, read, hits, hst, hrun, hread, hsorted, ?_⟩
  cases hrun
  have hrows : mixedRows.filterMap Similar.ofRecord? =
      [⟨some "A", none, "a", .ofInt 1⟩, ⟨none, none, "b", .ofInt 1⟩, ⟨none, none, "c", .ofInt 2⟩] :=
    rfl
  have hlow : ¬ (Binary64.ofInt 2).rank ≤ (Binary64.ofInt 1).rank := by decide +kernel
  simp [rankSimilar, hrows, List.mergeSort, Similar.notAfter, hlow]

end KnowledgeGraph.Node
