import KnowledgeGraph.Proofs.Node.Creation
import KnowledgeGraph.Proofs.Node.Ranking
import KnowledgeGraph.Schema.Loading

/-!
# Near-duplicates

A creation compares its node with the best match of the vector index, and the index covers the nodes
with one label. So a node with that label keeps later near-duplicates out, and a node without it
keeps nothing out: runs of creations, and the nodes that they leave in a graph.
-/

namespace KnowledgeGraph

namespace Schema

open KnowledgeGraph.Graph

/-- The label of the nodes in the vector index, as it stands in the statement that makes it. -/
def Indexes (settings : Settings) (label : String) : Prop :=
  ∃ dimensions st index rest tail, createIndex settings dimensions = .ok st ∧
    quote settings.vectorIndex = .ok index ∧
    st.text = "CREATE VECTOR INDEX " ++ index ++ " IF NOT EXISTS\nFOR (n" ++ rest ∧
    readLabels rest.toList = ([label], tail)

theorem text_createIndex {settings : Settings} (h : createIndex settings dimensions = .ok st) :
    ∃ index expression tail, quote settings.vectorIndex = .ok index ∧
      labelExpression [settings.vectorLabel] = .ok expression ∧ EndsLabels tail.toList ∧
      st.text = "CREATE VECTOR INDEX " ++ index ++ " IF NOT EXISTS\nFOR (n" ++
        (expression ++ tail) := by
  obtain ⟨index, hindex, h⟩ := bind_eq_ok_iff.mp h
  obtain ⟨label, hlabel, h⟩ := bind_eq_ok_iff.mp h
  cases pure_eq_ok_iff.mp h
  generalize "OPTIONS " ++ _ = options
  have hlines : " IF NOT EXISTS\nFOR (n" = " IF NOT EXISTS" ++ ("\n" ++ "FOR (n") := rfl
  have hcolon : "FOR (n:" = "FOR (n" ++ ":" := rfl
  refine ⟨index, _, ") ON (n.embedding)" ++ ("\n" ++ options), hindex,
    labelExpression_cons_eq_ok_iff.mpr ⟨label, "", hlabel, rfl, rfl⟩, ?_, ?_⟩
  · have htail : ") ON (n.embedding)".toList = ')' :: " ON (n.embedding)".toList := rfl
    rw [String.toList_append, htail]
    exact ⟨by simp, by simp⟩
  · show ((("CREATE VECTOR INDEX " ++ index ++ " IF NOT EXISTS") ++ "\n" ++
      ("FOR (n:" ++ label ++ ") ON (n.embedding)")) ++ "\n") ++ options = _
    simp only [hlines, hcolon, String.append_assoc, String.empty_append]

theorem eq_of_indexes {settings : Settings} (h : Indexes settings label) :
    label = Text.trim settings.vectorLabel := by
  obtain ⟨dimensions, st, index, rest, tail, hst, hindex, htext, hrest⟩ := h
  obtain ⟨index', expression, tail', hindex', hexpression, htail, htext'⟩ := text_createIndex hst
  obtain rfl : index = index' := Except.ok.inj (hindex.symm.trans hindex')
  obtain rfl : rest = expression ++ tail' :=
    (String.append_right_inj _).mp (htext.symm.trans htext')
  rw [String.toList_append, readLabels_labelExpression hexpression htail] at hrest
  exact (List.singleton_inj.mp (congrArg Prod.fst hrest)).symm

theorem indexes_of_createIndex {settings : Settings}
    (h : createIndex settings dimensions = .ok st) :
    Indexes settings (Text.trim settings.vectorLabel) := by
  obtain ⟨index, expression, tail, hindex, hexpression, htail, htext⟩ := text_createIndex h
  refine ⟨dimensions, st, index, expression ++ tail, tail.toList, h, hindex, htext, ?_⟩
  rw [String.toList_append]
  exact readLabels_labelExpression hexpression htail

end Schema

namespace Node

open KnowledgeGraph.Graph
open Json (Members)

-- ---------------------------------------------------------------------------
-- Scores
-- ---------------------------------------------------------------------------

/-- A score of embeddings. None is closer to an embedding than itself. -/
structure Similarity where
  score : List Binary64 → List Binary64 → Binary64
  isNumber : ∀ v w, (score v w).isNaN = false
  symm : ∀ v w, score v w = score w v
  bounded : ∀ v w, (score v w).gt (score v v) = false

def floats? : Json → Option (List Binary64)
  | .arr items => items.mapM Json.float?
  | _ => none

def embeddingOf? (v : Vertex) : Option (List Binary64) := floats? (v.property "embedding")

def Similarity.TooSimilar (sim : Similarity) (settings : Settings) (v w : Vertex) : Prop :=
  ∃ e e', embeddingOf? v = some e ∧ embeddingOf? w = some e' ∧
    (sim.score e e').gt settings.similarityThreshold = true

/-- The best of some nodes for an embedding. -/
structure Similarity.Best (sim : Similarity) (nodes : List Vertex) (e : List Binary64)
    (hit : Hit) : Prop where
  mem : hit.vertex ∈ nodes
  score : ∃ e', embeddingOf? hit.vertex = some e' ∧ hit.score = sim.score e e'
  best : ∀ v ∈ nodes, ∀ e', embeddingOf? v = some e' → (sim.score e e').gt hit.score = false

theorem floats?_map_float (e : List Binary64) : floats? (.arr (e.map .float)) = some e := by
  show (e.map Json.float).mapM Json.float? = some e
  induction e with
  | nil => rfl
  | cons x e ih =>
    rw [List.map_cons, List.mapM_cons, ih]
    rfl

theorem gt_trans_of_not_gt {x y z : Binary64} (hy : y.isNaN = false) (hxy : x.gt y = false)
    (hxz : x.gt z = true) : y.gt z = true := by
  simp only [Binary64.gt, Bool.and_eq_true, Bool.not_eq_true', decide_eq_true_eq] at hxz ⊢
  obtain ⟨⟨hx, hz⟩, hlt⟩ := hxz
  simp only [Binary64.gt, hx, hy, Bool.not_false, Bool.true_and, decide_eq_false_iff_not] at hxy
  exact ⟨⟨hy, hz⟩, Int.lt_of_lt_of_le hlt (Int.not_lt.mp hxy)⟩

-- ---------------------------------------------------------------------------
-- A store with a vector index
-- ---------------------------------------------------------------------------

/-- A statement that makes a node of these labels and properties. -/
def Makes (st : Statement) (labels : List String) (properties : Members) : Prop :=
  ∃ rest, st.text = "CREATE (n" ++ rest ∧ readLabels rest.toList = (labels, createTail.toList) ∧
    st.params = [("properties", .obj properties)]

inductive Looks (settings : Settings) : Call → Prop where
  | embed (text : String) : Looks settings (.embed text)
  | search (e : List Binary64) :
      Looks settings (.query (similarToEmbedding settings.vectorIndex e 1))
  | draw (prompt : String) : Looks settings (.draw prompt)
  | now : Looks settings .now
  | put (bucket key : String) (o : Asset.Object) : Looks settings (.put bucket key o)
  | count (event : Telemetry.Event) : Looks settings (.count event)

/-- A store of nodes with a vector index of those that have a label. A search for one node answers
the best of the index, and what is told to make a node makes it. -/
structure IndexesVectors (answer : (c : Call) → σ → c.Answer × σ) (settings : Settings)
    (sim : Similarity) (label : String) (vertices : σ → List Vertex) : Prop where
  indexes : Schema.Indexes settings label
  nearest : ∀ e s rows,
    (answer (.query (similarToEmbedding settings.vectorIndex e 1)) s).1 = .ok rows →
    let indexed := (vertices s).filter (label ∈ ·.labels)
    (∃ hit, sim.Best indexed e hit ∧ rows = [rowOf hit]) ∨
      (∀ v ∈ indexed, embeddingOf? v = none) ∧ rows = []
  creates : ∀ st labels ms s rows, Makes st labels ms → (answer (.query st) s).1 = .ok rows →
    ∃ v, vertices (answer (.query st) s).2 = vertices s ++ [v] ∧ (∀ l, l ∈ v.labels ↔ l ∈ labels) ∧
      ∀ e : List Binary64, Members.get? "embedding" ms = some (.arr (e.map .float)) →
        embeddingOf? v = some e
  keeps : ∀ st labels ms s failure, Makes st labels ms →
    (answer (.query st) s).1 = .error failure → vertices s ⊆ vertices (answer (.query st) s).2
  quiet : ∀ c s, Looks settings c → vertices (answer c s).2 = vertices s

theorem makes_of_create (h : create labels ms = .ok st) : Makes st (labels.map Text.trim) ms := by
  obtain ⟨expression, hexpression, htext, hparams⟩ := text_create h
  refine ⟨expression ++ createTail, htext, ?_, hparams⟩
  rw [String.toList_append]
  exact readLabels_labelExpression hexpression endsLabels_createTail

section
variable {answer : (c : Call) → σ → c.Answer × σ} {settings : Settings} {sim : Similarity}
  {label : String} {vertices : σ → List Vertex} {bucket? : Option String} {c : Creation}

/-- What is let through is not too similar to any node of the index. -/
theorem IndexesVectors.unlike_of_nearest (h : IndexesVectors answer settings sim label vertices)
    (hrows : (answer (.query (similarToEmbedding settings.vectorIndex e 1)) s).1 = .ok rows)
    (hunlike : tooSimilar? settings rows = none) (hv : v ∈ vertices s) (hlabel : label ∈ v.labels)
    (he : embeddingOf? v = some e') : (sim.score e e').gt settings.similarityThreshold = false := by
  have hindexed : v ∈ (vertices s).filter (label ∈ ·.labels) :=
    List.mem_filter.mpr ⟨hv, decide_eq_true hlabel⟩
  rcases h.nearest e s rows hrows with ⟨hit, hbest, rfl⟩ | ⟨hnone, -⟩
  · have hnot := tooSimilar?_eq_none_iff.mp hunlike hit.score rfl
    obtain ⟨_, -, hscore⟩ := hbest.score
    by_contra hgt
    rw [Bool.not_eq_false] at hgt
    have habove := gt_trans_of_not_gt (hscore ▸ sim.isNumber _ _) (hbest.best v hindexed e' he) hgt
    rw [hnot] at habove
    cases habove
  · rw [hnone v hindexed] at he
    cases he

-- ---------------------------------------------------------------------------
-- One creation
-- ---------------------------------------------------------------------------

/-- The node of a creation, and nodes that were there before it. -/
structure Creation.IsMadeAs (c : Creation) (settings : Settings) (sim : Similarity)
    (before : List Vertex) (v : Vertex) : Prop where
  labels : ∀ l, l ∈ v.labels ↔ l ∈ c.labels.map Text.trim
  embedded : ∃ e, embeddingOf? v = some e
  unlike : ∀ w ∈ before, Text.trim settings.vectorLabel ∈ w.labels → ¬ sim.TooSimilar settings w v

/-- A creation leaves the nodes that are there. If it succeeds, its node comes to them. -/
inductive Creation.Changes (c : Creation) (settings : Settings) (sim : Similarity)
    (before after : List Vertex) : Except Error (List Record) → Prop where
  | made : c.IsMadeAs settings sim before v → after = before ++ [v] →
      Changes c settings sim before after (.ok rows)
  | failed : before ⊆ after → Changes c settings sim before after (.error e)

theorem Pictured.looks (h : Pictured name subject bucket? log key?) :
    ∀ turn ∈ log, Looks settings turn.call := by
  cases h with
  | unwanted => exact List.forall_mem_nil _
  | stored => simp [Looks.draw, Looks.now, Looks.put]

theorem NotPictured.looks {failure : Failure}
    (h : NotPictured name subject bucket? log failure) :
    ∀ turn ∈ log, Looks settings turn.call := by
  cases h <;> simp [Looks.draw, Looks.now, Looks.put]

theorem looks_compared : ∀ turn ∈ c.compared settings name e rows, Looks settings turn.call := by
  simp [Creation.compared, Looks.embed, Looks.search]

theorem IndexesVectors.eq_of_looks (h : IndexesVectors answer settings sim label vertices)
    (hlog : ∀ turn ∈ log, Looks settings turn.call) (hreplay : Workflow.Replays answer log s s') :
    vertices s' = vertices s :=
  Workflow.eq_of_replays (fun turn hturn s => h.quiet turn.call s (hlog turn hturn)) hreplay

/-- What the store answered to the search of a creation. -/
theorem IndexesVectors.nearest_of_compared (h : IndexesVectors answer settings sim label vertices)
    (hreplay : Workflow.Replays answer (c.compared settings name e rows) s s') :
    ∃ s₁, vertices s₁ = vertices s ∧ vertices s' = vertices s ∧
      (answer (.query (similarToEmbedding settings.vectorIndex e 1)) s₁).1 = .ok rows := by
  obtain ⟨-, hrows, rfl⟩ := hreplay
  have hembed := h.quiet _ s (.embed (c.subject name))
  exact ⟨_, hembed, (h.quiet _ _ (.search e)).trans hembed, hrows⟩

theorem IndexesVectors.changes_of_run (h : IndexesVectors answer settings sim label vertices)
    (hrun : c.Run settings bucket? log r) (hreplay : Workflow.Replays answer log s s') :
    c.Changes settings sim (vertices s) (vertices s') r := by
  have hquiet (hlooks : ∀ turn ∈ log, Looks settings turn.call) : vertices s ⊆ vertices s' := by
    rw [h.eq_of_looks hlooks hreplay]
    exact List.Subset.refl _
  cases hrun with
  | refused => exact .failed (hquiet (List.forall_mem_nil _))
  | notEmbedded => exact .failed (hquiet (by simp [Looks.embed]))
  | notCompared => exact .failed (hquiet (by simp [Looks.embed, Looks.search]))
  | similar =>
    refine .failed (hquiet (List.forall_mem_append.mpr ⟨looks_compared, ?_⟩))
    simp [Looks.count]
  | notPictured _ _ _ hpicture =>
    exact .failed (hquiet (List.forall_mem_append.mpr ⟨looks_compared, hpicture.looks⟩))
  | @sent name rows log key? embedding log' r hnames hunlike hpicture hsent =>
    rw [List.append_assoc, Workflow.replays_append] at hreplay
    obtain ⟨s₁, hcompared, hreplay⟩ := hreplay
    obtain ⟨s₂, hpictured, hreplay⟩ := Workflow.replays_append.mp hreplay
    obtain ⟨s₀, hs₀, hs₁, hrows⟩ := h.nearest_of_compared hcompared
    have hs₂ : vertices s₂ = vertices s := (h.eq_of_looks hpicture.looks hpictured).trans hs₁
    cases hsent with
    | mislabeled =>
      obtain rfl := hreplay
      exact .failed (hs₂ ▸ List.Subset.refl _)
    | @notCreated st failure hst =>
      obtain ⟨hanswer, rfl⟩ := hreplay
      exact .failed (hs₂ ▸ h.keeps st _ _ s₂ failure (makes_of_create hst) hanswer)
    | @created st records hst =>
      obtain ⟨hanswer, -, rfl⟩ := hreplay
      -- The node is compared with what was there at the search, which nothing has changed since.
      obtain ⟨v, hv, hlabels, hembedding⟩ := h.creates st _ _ s₂ records (makes_of_create hst) hanswer
      have he : embeddingOf? v = some embedding := hembedding embedding (by rw [get?_stored]; rfl)
      refine .made (v := v) ⟨hlabels, ⟨embedding, he⟩, ?_⟩ ?_
      · rintro w hw hlabel ⟨e, e', hew, hev, hgt⟩
        obtain rfl : embedding = e' := Option.some.inj (he.symm.trans hev)
        rw [← Schema.eq_of_indexes h.indexes] at hlabel
        have hnot := h.unlike_of_nearest hrows hunlike (hs₀ ▸ hw) hlabel hew
        rw [sim.symm, hnot] at hgt
        cases hgt
      · rw [h.quiet _ _ (.count .nodeCreated), hv, hs₂]

theorem IndexesVectors.changes_add (h : IndexesVectors answer settings sim label vertices)
    (bucket? : Option String) (c : Creation) (s : σ) :
    c.Changes settings sim (vertices s) (vertices ((add settings bucket? c).run answer s).2)
      ((add settings bucket? c).run answer s).1 :=
  h.changes_of_run (run_of_trace (Workflow.trace_run answer _ s)) (Workflow.replays_run _ s)

end

-- ---------------------------------------------------------------------------
-- Runs of creations
-- ---------------------------------------------------------------------------

section
variable (answer : (c : Call) → σ → c.Answer × σ) (settings : Settings) (bucket? : Option String)
  (vertices : σ → List Vertex)

/-- Creations one after another, with those that succeeded and the nodes that they made. -/
inductive Creations : List Creation → σ → List (Creation × Vertex) → σ → Prop where
  | nil : Creations [] s [] s
  | success : (add settings bucket? c).run answer s = (.ok rows, s₁) →
      vertices s₁ = vertices s ++ [v] → Creations cs s₁ made s' →
      Creations (c :: cs) s ((c, v) :: made) s'
  | failure : (add settings bucket? c).run answer s = (.error e, s₁) → Creations cs s₁ made s' →
      Creations (c :: cs) s made s'

variable {answer settings bucket? vertices} {sim : Similarity} {label : String}

theorem IndexesVectors.exists_creations (h : IndexesVectors answer settings sim label vertices)
    (bucket? : Option String) (cs : List Creation) (s : σ) :
    ∃ made s', Creations answer settings bucket? vertices cs s made s' := by
  induction cs generalizing s with
  | nil => exact ⟨_, _, .nil⟩
  | cons c cs ih =>
    have hchanges := h.changes_add bucket? c s
    generalize hrun : (add settings bucket? c).run answer s = x at hchanges
    obtain ⟨r, s₁⟩ := x
    obtain ⟨made, s', hcreations⟩ := ih s₁
    cases hchanges with
    | made _ hafter => exact ⟨_, _, .success hrun hafter hcreations⟩
    | failed => exact ⟨_, _, .failure hrun hcreations⟩

theorem IndexesVectors.isMadeAs_of_creations
    (h : IndexesVectors answer settings sim label vertices)
    (hcreations : Creations answer settings bucket? vertices cs s made s') :
    ∀ p ∈ made, p.1.IsMadeAs settings sim (vertices s) p.2 := by
  induction hcreations with
  | nil => exact List.forall_mem_nil _
  | @success c s s₁ rows v cs made s' hrun hafter _ ih =>
    have hchanges := h.changes_add bucket? c s
    rw [hrun] at hchanges
    cases hchanges with
    | @made w _ hmade hw =>
      obtain rfl : v = w := by simpa using hafter.symm.trans hw
      refine List.forall_mem_cons.mpr ⟨hmade, fun p hp => ?_⟩
      have hkept : vertices s ⊆ vertices s₁ := hafter ▸ List.subset_append_left _ _
      exact { ih p hp with unlike := fun w hw => (ih p hp).unlike w (hkept hw) }
  | @failure c s e s₁ cs made s' hrun _ ih =>
    have hchanges := h.changes_add bucket? c s
    rw [hrun] at hchanges
    cases hchanges with
    | failed hkept =>
      exact fun p hp => { ih p hp with unlike := fun w hw => (ih p hp).unlike w (hkept hw) }

/-- A node with the label of the index is not too similar to any node that is made later. -/
theorem IndexesVectors.pairwise_of_creations
    (h : IndexesVectors answer settings sim label vertices)
    (hcreations : Creations answer settings bucket? vertices cs s made s') :
    made.Pairwise fun p q => Text.trim settings.vectorLabel ∈ p.2.labels →
      ¬ sim.TooSimilar settings p.2 q.2 := by
  induction hcreations with
  | nil => exact .nil
  | @success c s s₁ rows v cs made s' hrun hafter hrest ih =>
    refine .cons (fun q hq hlabel => ?_) ih
    have hv : v ∈ vertices s₁ := hafter ▸ List.mem_append_right _ List.mem_cons_self
    exact (h.isMadeAs_of_creations hrest q hq).unlike v hv hlabel
  | failure _ _ ih => exact ih

/-- Of the nodes that a run of creations makes, those with the label of the index keep their
near-duplicates out. So near-duplicates get in exactly by way of nodes without it. -/
theorem labeled_nodes_keep_duplicates_out (h : IndexesVectors answer settings sim label vertices)
    (bucket? : Option String) (cs : List Creation) (s : σ) :
    ∃ made s', Creations answer settings bucket? vertices cs s made s' ∧
      (∀ p ∈ made, (∀ l, l ∈ p.2.labels ↔ l ∈ p.1.labels.map Text.trim) ∧
        ∃ e, embeddingOf? p.2 = some e) ∧
      (made.Pairwise fun p q => Text.trim settings.vectorLabel ∈ p.2.labels →
        ¬ sim.TooSimilar settings p.2 q.2) ∧
      ((made.Pairwise fun p q => ¬ sim.TooSimilar settings p.2 q.2) ↔
        made.Pairwise fun p q => Text.trim settings.vectorLabel ∉ p.2.labels →
          ¬ sim.TooSimilar settings p.2 q.2) := by
  obtain ⟨made, s', hcreations⟩ := h.exists_creations bucket? cs s
  have hmade := h.isMadeAs_of_creations hcreations
  have hlabeled := h.pairwise_of_creations hcreations
  refine ⟨made, s', hcreations, fun p hp => ⟨(hmade p hp).labels, (hmade p hp).embedded⟩,
    hlabeled, fun hunlike => hunlike.imp ?_, fun hunlike => ?_⟩
  · exact fun hnot _ => hnot
  · refine (hlabeled.and hunlike).imp fun {p q} hboth => ?_
    by_cases hlabel : Text.trim settings.vectorLabel ∈ p.2.labels
    · exact hboth.1 hlabel
    · exact hboth.2 hlabel

theorem Creations.of_nil (h : Creations answer settings bucket? vertices [] s made s') :
    made = [] := by
  cases h
  rfl

theorem Creations.of_isOk (h : Creations answer settings bucket? vertices (c :: cs) s made s')
    (hok : ((add settings bucket? c).run answer s).1.isOk = true) :
    ∃ v later, made = (c, v) :: later ∧
      Creations answer settings bucket? vertices cs ((add settings bucket? c).run answer s).2
        later s' := by
  cases h with
  | success hrun _ hrest =>
    rw [hrun]
    exact ⟨_, _, rfl, hrest⟩
  | failure hrun =>
    rw [hrun] at hok
    cases hok

theorem Creations.of_not_isOk (h : Creations answer settings bucket? vertices (c :: cs) s made s')
    (hnot : ((add settings bucket? c).run answer s).1.isOk = false) :
    Creations answer settings bucket? vertices cs ((add settings bucket? c).run answer s).2
      made s' := by
  cases h with
  | success hrun =>
    rw [hrun] at hnot
    cases hnot
  | failure hrun hrest =>
    rw [hrun]
    exact hrest

theorem IndexesVectors.exists_made (h : IndexesVectors answer settings sim label vertices)
    (hok : ((add settings bucket? c).run answer s).1.isOk = true) :
    ∃ rows v, (add settings bucket? c).run answer s =
        (.ok rows, ((add settings bucket? c).run answer s).2) ∧
      vertices ((add settings bucket? c).run answer s).2 = vertices s ++ [v] := by
  have hchanges := h.changes_add bucket? c s
  generalize hrun : (add settings bucket? c).run answer s = x at hok hchanges
  obtain ⟨r, s₁⟩ := x
  cases hchanges with
  | @made v rows _ hafter => exact ⟨rows, v, rfl, hafter⟩
  | failed => cases hok

end

-- ---------------------------------------------------------------------------
-- A graph in memory
-- ---------------------------------------------------------------------------

def sameness : Similarity where
  score v w := if v = w then .ofNat 1 else .zero
  isNumber v w := by split <;> decide +kernel
  symm v w := by simp only [eq_comm]
  bounded v w := by
    rw [if_pos rfl]
    split <;> decide +kernel

def made? (st : Statement) : Option (List String × Members) :=
  match st.params with
  | [("properties", .obj ms)] =>
    match st.text.toList with
    | 'C' :: 'R' :: 'E' :: 'A' :: 'T' :: 'E' :: ' ' :: '(' :: 'n' :: rest =>
      some ((readLabels rest).1, ms)
    | _ => none
  | _ => none

def indexed (g : List Vertex) : List Vertex :=
  g.filter fun v => "L1" ∈ v.labels ∧ (embeddingOf? v).isSome

def closest? (g : List Vertex) (e : List Binary64) : Option Vertex :=
  ((indexed g).find? (embeddingOf? · = some e)).or (indexed g).head?

def askGraph (st : Statement) (g : List Vertex) : List Record × List Vertex :=
  match made? st with
  | some (labels, ms) => ([], g ++ [⟨Nat.repr g.length, labels, ms⟩])
  | none =>
    let e := ((Members.get? "embedding" st.params).bind floats?).getD []
    (((closest? g e).map fun v =>
      rowOf ⟨v, sameness.score e ((embeddingOf? v).getD [])⟩).toList, g)

def graphInMemory : (c : Call) → List Vertex → c.Answer × List Vertex
  | .embed text, g => (.ok [.ofNat text.length], g)
  | c, g => storeAlone askGraph c g

theorem made?_of_makes (h : Makes st labels ms) : made? st = some (labels, ms) := by
  obtain ⟨rest, htext, hlabels, hparams⟩ := h
  have htoList : st.text.toList = "CREATE (n".toList ++ rest.toList := by
    rw [htext, String.toList_append]
  simp [made?, htoList, hparams, hlabels]

theorem made?_of_not_isCreate (h : ¬ IsCreate st) : made? st = none := by
  unfold made?
  split
  · split
    · next rest htext =>
      refine absurd ⟨String.ofList rest, String.toList_inj.mp ?_⟩ h
      rw [htext, String.toList_append, String.toList_ofList (l := rest)]
      rfl
    · rfl
  · rfl

theorem askGraph_similarToEmbedding (g : List Vertex) (e : List Binary64) :
    askGraph (similarToEmbedding index e 1) g = (((closest? g e).map fun v =>
      rowOf ⟨v, sameness.score e ((embeddingOf? v).getD [])⟩).toList, g) := by
  have hmade : made? (similarToEmbedding index e 1) = none :=
    made?_of_not_isCreate not_isCreate_similarToEmbedding
  have he : Members.get? "embedding" (similarToEmbedding index e 1).params =
      some (.arr (e.map .float)) :=
    get?_params_statement (.embedding e) (.tail _ (.head _))
  rw [askGraph, hmade, he, Option.bind_some, floats?_map_float]
  rfl

theorem graphInMemory_query (st : Statement) (g : List Vertex) :
    graphInMemory (.query st) g = (.ok (askGraph st g).1, (askGraph st g).2) := rfl

theorem mem_indexed :
    v ∈ indexed g ↔ v ∈ g.filter ("L1" ∈ ·.labels) ∧ ∃ e, embeddingOf? v = some e := by
  simp [indexed, Option.isSome_iff_exists, and_assoc]

theorem mem_of_closest? (h : closest? g e = some v) : v ∈ indexed g := by
  rcases Option.or_eq_some_iff.mp h with hfound | ⟨-, hhead⟩
  · exact List.mem_of_find?_eq_some hfound
  · exact List.mem_of_head? hhead

theorem best_of_closest? (h : closest? g e = some v) :
    sameness.Best (g.filter ("L1" ∈ ·.labels)) e
      ⟨v, sameness.score e ((embeddingOf? v).getD [])⟩ := by
  obtain ⟨hmem, e', he'⟩ := mem_indexed.mp (mem_of_closest? h)
  rw [he', Option.getD_some]
  refine ⟨hmem, ⟨e', he', rfl⟩, fun w hw f hf => ?_⟩
  rcases Option.or_eq_some_iff.mp h with hfound | ⟨hnone, -⟩
  · have hsame : embeddingOf? v = some e := by simpa using List.find?_some hfound
    obtain rfl : e = e' := Option.some.inj (hsame.symm.trans he')
    exact sameness.bounded e f
  · -- No node has the embedding, so all scores are zero.
    have hother : ∀ w ∈ indexed g, embeddingOf? w ≠ some e := by
      simpa using List.find?_eq_none.mp hnone
    have hzero {w : Vertex} {f : List Binary64} (hw : w ∈ indexed g)
        (hf : embeddingOf? w = some f) : sameness.score e f = .zero :=
      if_neg fun heq : e = f => hother w hw (heq ▸ hf)
    simp only [hzero (mem_indexed.mpr ⟨hw, f, hf⟩) hf, hzero (mem_of_closest? h) he']
    decide

theorem embeddingOf?_of_closest? (h : closest? g e = none) :
    ∀ v ∈ g.filter ("L1" ∈ ·.labels), embeddingOf? v = none := by
  intro v hv
  have hempty : indexed g = [] := List.head?_eq_none_iff.mp (Option.or_eq_none_iff.mp h).2
  cases hembedding : embeddingOf? v with
  | none => rfl
  | some e =>
    have hmem : v ∈ indexed g := mem_indexed.mpr ⟨hv, e, hembedding⟩
    rw [hempty] at hmem
    cases hmem

theorem indexesVectors_graphInMemory :
    IndexesVectors graphInMemory {} sameness "L1" fun g => g where
  indexes := Schema.indexes_of_createIndex (show Schema.createIndex {} 1 = .ok _ from rfl)
  nearest e g rows hrows := by
    rw [graphInMemory_query, askGraph_similarToEmbedding] at hrows
    cases hclosest : closest? g e with
    | none =>
      rw [hclosest] at hrows
      cases hrows
      exact .inr ⟨embeddingOf?_of_closest? hclosest, rfl⟩
    | some v =>
      rw [hclosest] at hrows
      cases hrows
      exact .inl ⟨_, best_of_closest? hclosest, rfl⟩
  creates st labels ms g rows h _ := by
    refine ⟨⟨Nat.repr g.length, labels, ms⟩, ?_, fun _ => Iff.rfl, fun e he => ?_⟩
    · rw [graphInMemory_query, askGraph, made?_of_makes h]
    · show floats? ((Members.get? "embedding" ms).getD .null) = some e
      rw [he]
      exact floats?_map_float e
  keeps st labels ms g failure _ h := nomatch h
  quiet c g h := by
    cases h with
    | search e => rw [graphInMemory_query, askGraph_similarToEmbedding]
    | _ => rfl

theorem unlabeled_rust_is_made_twice :
    IndexesVectors graphInMemory {} sameness "L1" (fun g => g) ∧
    ∃ made s', Creations graphInMemory {} none (fun g => g) [rust, rust] [] made s' ∧
      ¬ made.Pairwise fun p q => ¬ sameness.TooSimilar {} p.2 q.2 := by
  have h := indexesVectors_graphInMemory
  have hok : ((add {} none rust).run graphInMemory []).1.isOk = true := by decide +kernel
  have hok' : ((add {} none rust).run graphInMemory
      ((add {} none rust).run graphInMemory []).2).1.isOk = true := by decide +kernel
  have hembeddings : ((add {} none rust).run graphInMemory
      ((add {} none rust).run graphInMemory []).2).2.map embeddingOf? =
        [some [.ofNat 6], some [.ofNat 6]] := by decide +kernel
  obtain ⟨rows, v, hrun, hv⟩ := h.exists_made hok
  obtain ⟨rows', w, hrun', hw⟩ := h.exists_made hok'
  refine ⟨h, [(rust, v), (rust, w)], _, .success hrun hv (.success hrun' hw .nil), fun hunlike => ?_⟩
  rw [hw, hv] at hembeddings
  simp only [List.nil_append, List.cons_append, List.map_cons, List.map_nil, List.cons.injEq]
    at hembeddings
  refine (List.pairwise_cons.mp hunlike).1 _ List.mem_cons_self ?_
  exact ⟨_, _, hembeddings.1, hembeddings.2.1, by decide +kernel⟩

def labeledRust : Creation := { rust with labels := ["L1 "] }

def unlabeledGo : Creation := { rust with properties := [("name", .str "Go")] }

theorem labeledRust_keeps_rust_out :
    IndexesVectors graphInMemory {} sameness "L1" (fun g => g) ∧
    ∃ v w s', Creations graphInMemory {} none (fun g => g) [labeledRust, rust, unlabeledGo] []
        [(labeledRust, v), (unlabeledGo, w)] s' ∧
      "L1" ∈ v.labels ∧ ¬ sameness.TooSimilar {} v w := by
  have h := indexesVectors_graphInMemory
  have hfirst : ((add {} none labeledRust).run graphInMemory []).1.isOk = true := by
    decide +kernel
  have hsecond : ((add {} none rust).run graphInMemory
      ((add {} none labeledRust).run graphInMemory []).2).1.isOk = false := by decide +kernel
  have hthird : ((add {} none unlabeledGo).run graphInMemory
      ((add {} none rust).run graphInMemory
        ((add {} none labeledRust).run graphInMemory []).2).2).1.isOk = true := by decide +kernel
  obtain ⟨made, s', hcreations, hmade, hunlike, -⟩ :=
    labeled_nodes_keep_duplicates_out h none [labeledRust, rust, unlabeledGo] []
  obtain ⟨v, later, rfl, hrest⟩ := hcreations.of_isOk hfirst
  obtain ⟨w, later, rfl, hend⟩ := (hrest.of_not_isOk hsecond).of_isOk hthird
  obtain rfl := hend.of_nil
  have hlabel : "L1" ∈ v.labels := by
    rw [(hmade _ List.mem_cons_self).1]
    show "L1" ∈ labeledRust.labels.map Text.trim
    decide
  exact ⟨h, v, w, s', hcreations, hlabel,
    (List.pairwise_cons.mp hunlike).1 _ List.mem_cons_self hlabel⟩

end Node

end KnowledgeGraph
