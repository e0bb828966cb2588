import KnowledgeGraph.Node.Reading
import KnowledgeGraph.Proofs.Graph.Clauses
import KnowledgeGraph.Proofs.Json.Members
import KnowledgeGraph.Proofs.Text.Split

/-!
# Rankings

Similar nodes are the first of a ranking. If they are to be similar to a node, that node is left out
of it, and one candidate more than are asked for is enough for that, wherever in the ranking the node
stands and also if it is not there.
-/

namespace KnowledgeGraph.Graph

/-- A ranking of the nodes of an index by a vector: each node is there once, no score is above an
earlier one, and whoever asks for so many nodes is given the first of the ranking. -/
structure VectorGraph.Ranks (g : VectorGraph) (index : String) (vector : Json)
    (ranking : List Hit) : Prop where
  distinct : (ranking.map (·.vertex.elementId)).Nodup
  descending : ranking.Pairwise fun a b => g.le (.data (.float b.score)) (.data (.float a.score))
  nearest : ∀ n, g.nearest index n vector = some (ranking.take n)

end KnowledgeGraph.Graph

namespace KnowledgeGraph.Node

open KnowledgeGraph.Graph
open Json (Members)

inductive Reference where
  | vertex (elementId : String)
  | embedding (v : List Binary64)

/-- A query gives one reference: a node or an embedding, and not both. -/
inductive SimilarityQuery.Gives (q : SimilarityQuery) : Reference → Prop where
  | vertex {raw nodeId : String} : q.nodeId = some raw → nodeId = Text.trim raw → nodeId ≠ "" →
      q.embedding = none → Gives q (.vertex nodeId)
  | embedding : (∀ raw, q.nodeId = some raw → Text.trim raw = "") → q.embedding = some v →
      v ≠ [] → Gives q (.embedding v)

structure SimilarityQuery.Asks (q : SimilarityQuery) (reference : Reference) (limit : Nat) :
    Prop where
  gives : q.Gives reference
  limited : limit = (q.limit.map UInt32.toNat).getD 5
  inRange : 1 ≤ limit ∧ limit ≤ 100

namespace Reference

/-- The index ranks its nodes by the reference; if that is a node, by its embedding. -/
def Ranked (g : VectorGraph) (index : String) (ranking : List Hit) : Reference → Prop
  | .vertex nodeId => ∃ v ∈ g.vertices, v.elementId = nodeId ∧
      g.Ranks index (v.property "embedding") ranking
  | .embedding e => g.Ranks index (.arr (e.map .float)) ranking

/-- A ranking without the reference. -/
def others (ranking : List Hit) : Reference → List Hit
  | .vertex nodeId => ranking.filter (·.vertex.elementId ≠ nodeId)
  | .embedding _ => ranking

def statement (index : String) (limit : Nat) : Reference → Statement
  | .vertex nodeId => similarToNode index nodeId limit
  | .embedding v => similarToEmbedding index v limit

/-- How many nodes the index is asked for, and how many are answered. -/
def Limits (limit : Nat) (params : Members) : Reference → Prop
  | .vertex _ => Members.get? "candidates" params = some (.nat (limit + 1)) ∧
      Members.get? "limit" params = some (.nat limit)
  | .embedding _ => Members.get? "limit" params = some (.nat limit)

end Reference

def rowOf (h : Hit) : Record :=
  ⟨["name", "description", "id", "score"],
    [h.vertex.property "name", h.vertex.property "description", .str h.vertex.elementId,
      .float h.score]⟩

-- ---------------------------------------------------------------------------
-- What is asked for
-- ---------------------------------------------------------------------------

theorem asks_of_statement {q : SimilarityQuery} (h : q.statement settings = .ok st) :
    ∃ reference limit, q.Asks reference limit ∧
      st = reference.statement settings.vectorIndex limit := by
  unfold SimilarityQuery.statement at h
  dsimp only at h
  split at h
  · cases h
  next hrange =>
  simp only [not_or, Nat.not_lt] at hrange
  split at h
  · next nodeId hid hnone =>
    obtain ⟨raw, hraw, htrim⟩ := Option.bind_eq_some_iff.mp hid
    obtain ⟨htrim, hne⟩ := Text.trimmed?_eq_some_iff.mp htrim
    cases h
    exact ⟨.vertex nodeId, _, ⟨.vertex hraw htrim hne hnone, rfl, hrange⟩, rfl⟩
  · next x xs hnone hsome =>
    cases h
    refine ⟨.embedding (x :: xs), _, ⟨.embedding (fun raw hraw => ?_) hsome
      (List.cons_ne_nil x xs), rfl, hrange⟩, rfl⟩
    rw [hraw, Option.bind_some] at hnone
    by_contra hne
    rw [Text.trimmed?_eq_some_iff.mpr ⟨rfl, hne⟩] at hnone
    cases hnone
  · cases h

theorem statement_of_asks {q : SimilarityQuery} (h : q.Asks reference limit)
    (settings : Settings) :
    q.statement settings = .ok (reference.statement settings.vectorIndex limit) := by
  obtain ⟨hgives, rfl, hrange⟩ := h
  have hlimit : ¬ ((q.limit.map UInt32.toNat).getD defaultSimilarLimit < 1 ∨
      maxSimilarLimit < (q.limit.map UInt32.toNat).getD defaultSimilarLimit) :=
    not_or.mpr ⟨Nat.not_lt.mpr hrange.1, Nat.not_lt.mpr hrange.2⟩
  unfold SimilarityQuery.statement
  dsimp only
  rw [if_neg hlimit]
  cases hgives with
  | vertex hraw htrim hne hnone =>
    rw [hraw, hnone, Option.bind_some, Text.trimmed?_eq_some_iff.mpr ⟨htrim, hne⟩]
    rfl
  | @embedding v hblank hsome hne =>
    have hnone : q.nodeId.bind Text.trimmed? = none := by
      refine Option.bind_eq_none_iff.mpr fun raw hraw => Option.eq_none_iff_forall_ne_some.mpr ?_
      intro nodeId hid
      obtain ⟨rfl, hne⟩ := Text.trimmed?_eq_some_iff.mp hid
      exact hne (hblank raw hraw)
    obtain ⟨x, xs, rfl⟩ := List.exists_cons_of_ne_nil hne
    rw [hnone, hsome]
    rfl

def similarityClause : Clause :=
  .result [(.property "node" "name", "name"), (.property "node" "description", "description"),
    (.elementId "node", "id"), (.var "score", "score")]

theorem readClauses_similarToEmbedding (index : String) (v : List Binary64) (limit : Nat) :
    readClauses (similarToEmbedding index v limit).text.toList =
      some [.search (.param "index") (.param "limit") (.param "embedding"), similarityClause,
        .orderDesc "score"] := by
  rw [similarToEmbedding, Statement.ofLines, String.toList_intercalate]
  decide +kernel

theorem readClauses_similarToNode (index nodeId : String) (limit : Nat) :
    readClauses (similarToNode index nodeId limit).text.toList =
      some [.nodes "n", .filter (.elementId "n") true (.param "nodeId"),
        .search (.param "index") (.param "candidates") (.property "n" "embedding"),
        .filter (.elementId "node") false (.param "nodeId"), similarityClause,
        .orderDesc "score", .limit (.param "limit")] := by
  rw [similarToNode, Statement.ofLines, String.toList_intercalate]
  decide +kernel

-- ---------------------------------------------------------------------------
-- One candidate more
-- ---------------------------------------------------------------------------

/-- Of the first of a list and one more, at most one is left out. -/
theorem take_filter_take {key : α → String} (k : String) {xs : List α} (h : (xs.map key).Nodup)
    (n : Nat) : ((xs.take (n + 1)).filter (key · ≠ k)).take n =
      (xs.filter (key · ≠ k)).take n := by
  induction xs generalizing n with
  | nil => simp
  | cons x xs ih =>
    obtain ⟨hx, hxs⟩ := List.nodup_cons.mp h
    by_cases hk : key x = k
    · -- No other element is left out, so the rest is taken as it is.
      have hall : ∀ y ∈ xs, key y ≠ k := by
        rintro y hy rfl
        exact hx (hk ▸ List.mem_map_of_mem hy)
      have hkept (m : Nat) : (xs.take m).filter (key · ≠ k) = xs.take m :=
        List.filter_eq_self.mpr fun y hy => by simpa using hall y (List.mem_of_mem_take hy)
      have hself : xs.filter (key · ≠ k) = xs :=
        List.filter_eq_self.mpr fun y hy => by simpa using hall y hy
      rw [List.take_succ_cons, List.filter_cons_of_neg (by simpa using hk),
        List.filter_cons_of_neg (by simpa using hk), hkept, hself, List.take_take, Nat.min_self]
    · rw [List.take_succ_cons, List.filter_cons_of_pos (by simpa using hk),
        List.filter_cons_of_pos (by simpa using hk)]
      cases n with
      | zero => rfl
      | succ n => rw [List.take_succ_cons, List.take_succ_cons, ih hxs]

theorem filter_key_eq [DecidableEq κ] {key : α → κ} {xs : List α} (h : (xs.map key).Nodup)
    (hx : x ∈ xs) : xs.filter (key · = key x) = [x] := by
  induction xs with
  | nil => cases hx
  | cons y ys ih =>
    obtain ⟨hy, hys⟩ := List.nodup_cons.mp h
    rcases List.mem_cons.mp hx with rfl | hx
    · have hnone : ys.filter (key · = key x) = [] := by
        refine List.filter_eq_nil_iff.mpr fun z hz => ?_
        rw [decide_eq_true_eq]
        exact fun heq => hy (heq ▸ List.mem_map_of_mem hz)
      rw [List.filter_cons_of_pos (by simp), hnone]
    · have hne : key y ≠ key x := fun heq => hy (heq ▸ List.mem_map_of_mem hx)
      rw [List.filter_cons_of_neg (by simpa using hne), ih hys hx]

-- ---------------------------------------------------------------------------
-- Answers
-- ---------------------------------------------------------------------------

def shown (h : Hit) : Row :=
  [("name", .data (h.vertex.property "name")),
    ("description", .data (h.vertex.property "description")),
    ("id", .data (.str h.vertex.elementId)), ("score", .data (.float h.score))]

theorem eval_param {params : Members} (h : Members.get? name params = some j) (row : Row) :
    (Expr.param name).eval params row = .data j := by
  rw [Expr.eval, h]
  rfl

section
variable {g : VectorGraph} {params : Members}

theorem run_similarityClause (hits : List Hit) (row : Row) :
    g.run params (hits.map (·.row row)) similarityClause = some (hits.map shown) := by
  rw [similarityClause, VectorGraph.run, List.map_map]
  rfl

theorem run_orderDesc_shown (params : Members) {hits : List Hit}
    (h : hits.Pairwise fun a b => g.le (.data (.float b.score)) (.data (.float a.score))) :
    g.run params (hits.map shown) (.orderDesc "score") = some (hits.map shown) := by
  rw [VectorGraph.run, List.mergeSort_of_pairwise (List.pairwise_map.mpr h)]

theorem run_limit {limit : Nat} (h : Members.get? "limit" params = some (.nat limit))
    (table : List Row) : g.run params table (.limit (.param "limit")) = some (table.take limit) := by
  rw [VectorGraph.run, eval_param h]
  rfl

theorem run_filter_others (hid : Members.get? "nodeId" params = some (.str nodeId))
    (hits : List Hit) (row : Row) :
    g.run params (hits.map (·.row row)) (.filter (.elementId "node") false (.param "nodeId")) =
      some ((hits.filter (·.vertex.elementId ≠ nodeId)).map (·.row row)) := by
  rw [VectorGraph.run, List.filter_map]
  congr 3
  funext h
  show (Value.same? (.data (.str h.vertex.elementId))
    (.data ((Members.get? "nodeId" params).getD .null)) == some false) = _
  rw [hid]
  by_cases hne : h.vertex.elementId = nodeId <;> simp [Value.same?, hne]

theorem run_filter_self (hid : Members.get? "nodeId" params = some (.str v.elementId))
    (hv : v ∈ g.vertices) :
    g.run params (g.vertices.map fun v => [("n", .vertex v)])
      (.filter (.elementId "n") true (.param "nodeId")) = some [[("n", .vertex v)]] := by
  have hself : (fun row : Row => ((Expr.elementId "n").eval params row).same?
      ((Expr.param "nodeId").eval params row) == some true) ∘ (fun v => [("n", .vertex v)]) =
      fun w : Vertex => decide (w.elementId = v.elementId) := by
    funext w
    show (Value.same? (.data (.str w.elementId))
      (.data ((Members.get? "nodeId" params).getD .null)) == some true) = _
    rw [hid]
    by_cases heq : w.elementId = v.elementId <;> simp [Value.same?, heq]
  rw [VectorGraph.run, List.filter_map, hself, filter_key_eq g.distinct hv]
  rfl

theorem run_search (row : Row) {index : String} {limit : Nat} {vector : Json} {e e' e'' : Expr}
    (hranks : g.Ranks index vector ranking) (hindex : e.eval params row = .data (.str index))
    (hcount : e'.eval params row = .data (.nat limit))
    (hvector : e''.eval params row = .data vector) :
    g.run params [row] (.search e e' e'') = some ((ranking.take limit).map (·.row row)) := by
  have hfound : g.search (e.eval params row) (e'.eval params row) (e''.eval params row) =
      some (ranking.take limit) := by
    rw [hindex, hcount, hvector]
    exact hranks.nearest limit
  simp [VectorGraph.run, hfound]

end

def Reference.bindings (index : String) (limit : Nat) : Reference → List (String × Json)
  | .vertex nodeId => [("index", .str index), ("nodeId", .str nodeId),
      ("candidates", .nat (min (limit + 1) maxNat32)), ("limit", .nat limit)]
  | .embedding v => [("index", .str index), ("embedding", .arr (v.map .float)),
      ("limit", .nat limit)]

theorem get?_params_statement (reference : Reference)
    (h : (key, value) ∈ reference.bindings index limit) :
    Members.get? key (reference.statement index limit).params = some value := by
  cases reference with
  | vertex nodeId =>
    have hkeys : ["index", "nodeId", "candidates", "limit"].Nodup := by decide
    exact Members.get?_ofPairs_of_mem hkeys h
  | embedding v =>
    have hkeys : ["index", "embedding", "limit"].Nodup := by decide
    exact Members.get?_ofPairs_of_mem hkeys h

theorem limits_statement (reference : Reference) (index : String) (h : limit ≤ 100) :
    reference.Limits limit (reference.statement index limit).params := by
  cases reference with
  | vertex nodeId =>
    have hmin : min (limit + 1) maxNat32 = limit + 1 :=
      Nat.min_eq_left (Nat.le_trans (Nat.succ_le_succ h) (by decide))
    refine ⟨hmin ▸ get?_params_statement _ ?_, get?_params_statement _ ?_⟩ <;>
      simp [Reference.bindings]
  | embedding v => exact get?_params_statement _ (by simp [Reference.bindings])

theorem answer?_of_table {g : VectorGraph} {hits : List Hit}
    (hclauses : readClauses st.text.toList = some clauses)
    (htable : clauses.foldlM (g.run st.params) [[]] = some (hits.map shown))
    (hcolumns : st.columns = similarityColumns) : g.answer? st = some (hits.map rowOf) := by
  rw [VectorGraph.answer?, hclauses, Option.bind_eq_bind, Option.bind_some, htable, hcolumns]
  simp only [Option.bind_eq_bind, Option.bind_some, List.map_map]
  rfl

theorem answer?_similarToEmbedding {g : VectorGraph} {v : List Binary64}
    (h : g.Ranks index (.arr (v.map .float)) ranking) (limit : Nat) :
    g.answer? (similarToEmbedding index v limit) = some ((ranking.take limit).map rowOf) := by
  have hparam (key : String) (value : Json)
      (hmem : (key, value) ∈ (Reference.embedding v).bindings index limit) :
      (Expr.param key).eval (similarToEmbedding index v limit).params [] = .data value :=
    eval_param (get?_params_statement _ hmem) []
  simp only [Reference.bindings] at hparam
  have hsearch := run_search [] h (hparam "index" _ (.head _))
    (hparam "limit" (.nat limit) (by simp)) (hparam "embedding" _ (by simp))
  have hsorted := run_orderDesc_shown (similarToEmbedding index v limit).params
    (h.descending.sublist (List.take_sublist limit ranking))
  refine answer?_of_table (readClauses_similarToEmbedding ..) ?_ rfl
  simp only [List.foldlM_cons, List.foldlM_nil, Option.bind_eq_bind, Option.bind_some, hsearch,
    run_similarityClause, hsorted]
  rfl

theorem answer?_similarToNode {g : VectorGraph} {v : Vertex} (hv : v ∈ g.vertices)
    (h : g.Ranks index (v.property "embedding") ranking) (hlimit : limit ≤ 100) :
    g.answer? (similarToNode index v.elementId limit) =
      some (((ranking.filter (·.vertex.elementId ≠ v.elementId)).take limit).map rowOf) := by
  obtain ⟨hcandidates, hcount⟩ := limits_statement (.vertex v.elementId) index hlimit
  have hindex : Members.get? "index" (similarToNode index v.elementId limit).params =
      some (.str index) :=
    get?_params_statement (.vertex v.elementId) (.head _)
  have hid : Members.get? "nodeId" (similarToNode index v.elementId limit).params =
      some (.str v.elementId) :=
    get?_params_statement (.vertex v.elementId) (.tail _ (.head _))
  have hnodes : g.run (similarToNode index v.elementId limit).params [[]] (.nodes "n") =
      some (g.vertices.map fun v => [("n", .vertex v)]) := by
    simp [VectorGraph.run]
  have hself := run_filter_self hid hv
  have hvector : (Expr.property "n" "embedding").eval
      (similarToNode index v.elementId limit).params [("n", .vertex v)] =
        .data (v.property "embedding") := rfl
  have hsearch := run_search [("n", .vertex v)] h (eval_param hindex _) (eval_param hcandidates _)
    hvector
  have hothers := run_filter_others (g := g) hid (ranking.take (limit + 1)) [("n", .vertex v)]
  have hdescending : ((ranking.take (limit + 1)).filter
      (·.vertex.elementId ≠ v.elementId)).Pairwise fun a b =>
        g.le (.data (.float b.score)) (.data (.float a.score)) :=
    h.descending.sublist (List.filter_sublist.trans (List.take_sublist _ ranking))
  have hsorted := run_orderDesc_shown (similarToNode index v.elementId limit).params
    hdescending
  refine answer?_of_table (readClauses_similarToNode ..) ?_ rfl
  simp only [List.foldlM_cons, List.foldlM_nil, Option.bind_eq_bind, Option.bind_some, hnodes,
    hself, hsearch, hothers, run_similarityClause, hsorted]
  rw [← take_filter_take v.elementId h.distinct, List.map_take]
  exact congrArg (· >>= pure) (run_limit hcount _)

/-- The statement of an accepted query for similar nodes answers the first of the ranking without
the reference, as many as are asked for. -/
theorem similar_nodes_lead_their_ranking {q : SimilarityQuery}
    (hst : q.statement settings = .ok st) :
    ∃ reference limit, q.Asks reference limit ∧ reference.Limits limit st.params ∧
      ∀ g ranking, reference.Ranked g settings.vectorIndex ranking →
        g.answer? st = some (((reference.others ranking).take limit).map rowOf) := by
  obtain ⟨reference, limit, hasks, rfl⟩ := asks_of_statement hst
  have hlimit := hasks.inRange.2
  refine ⟨reference, limit, hasks, limits_statement reference _ hlimit, fun g ranking h => ?_⟩
  cases reference with
  | vertex nodeId =>
    obtain ⟨v, hv, rfl, hranks⟩ := h
    exact answer?_similarToNode hv hranks hlimit
  | embedding v => exact answer?_similarToEmbedding h limit

-- ---------------------------------------------------------------------------
-- A node among its equals
-- ---------------------------------------------------------------------------

def bare (elementId : String) : Vertex := ⟨elementId, [], []⟩

def tied : List Hit := [⟨bare "a", .ofNat 1⟩, ⟨bare "b", .ofNat 1⟩, ⟨bare "c", .zero⟩]

def placeOf : Value → Int
  | .data (.num n) => n.toFloat.place
  | _ => 0

def tiedGraph : VectorGraph where
  vertices := tied.map (·.vertex)
  distinct := by decide
  nearest _ n _ := some (tied.take n)
  le a b := placeOf a ≤ placeOf b
  le_trans a b c hab hbc := by
    simp only [decide_eq_true_eq] at hab hbc ⊢
    exact Int.le_trans hab hbc
  le_total a b := by simpa using Int.le_total (placeOf a) (placeOf b)

theorem ranked_tied : (Reference.vertex "b").Ranked tiedGraph "nodeEmbeddings" tied :=
  ⟨bare "b", .tail _ (.head _), rfl, by decide, by decide, fun _ => rfl⟩

def twoLikeB : SimilarityQuery := ⟨some " b ", none, some 2⟩

theorem second_is_left_out :
    ∃ st, twoLikeB.statement {} = .ok st ∧
      (Reference.vertex "b").Ranked tiedGraph "nodeEmbeddings" tied ∧
      Members.get? "candidates" st.params = some (.nat 3) ∧
      tiedGraph.answer? st = some [rowOf ⟨bare "a", .ofNat 1⟩, rowOf ⟨bare "c", .zero⟩] := by
  have hst : twoLikeB.statement {} = .ok (similarToNode "nodeEmbeddings" "b" 2) := rfl
  obtain ⟨reference, limit, hasks, hlimits, hanswer⟩ := similar_nodes_lead_their_ranking hst
  obtain rfl : limit = 2 := hasks.limited
  obtain rfl : reference = .vertex "b" := by
    cases hasks.gives with
    | vertex hid htrim =>
      cases hid
      rw [htrim]
      rfl
    | embedding _ hsome => cases hsome
  exact ⟨_, hst, ranked_tied, hlimits.1, hanswer tiedGraph tied ranked_tied⟩

end KnowledgeGraph.Node
