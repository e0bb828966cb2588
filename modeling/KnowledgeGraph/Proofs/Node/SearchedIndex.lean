import KnowledgeGraph.Proofs.Node.Duplicates
import KnowledgeGraph.Proofs.Node.Similarity
import KnowledgeGraph.Proofs.Text.Separator

/-!
# The index that is searched

The name of the vector index goes two ways. Where the index is made it stands quoted in the text of a
statement, and where the index is searched it is bound to a parameter. A name loses the blanks around
it on the first way, but not on the second.
-/

namespace KnowledgeGraph

open KnowledgeGraph.Graph
open Json (Members)

-- ---------------------------------------------------------------------------
-- Indexes of a log
-- ---------------------------------------------------------------------------

namespace Graph.Statement

/-- The name of the index that a statement makes. -/
def createdIndex? (st : Statement) : Option String := do
  let quoted ← Text.dropLead? "CREATE VECTOR INDEX \x60".toList st.text.toList
  let (name, _) ← readQuoted quoted
  return String.ofList name

/-- What a statement that searches an index binds as its name. -/
def searchedIndex? (st : Statement) : Option Json :=
  if Text.contains st.text "CALL db.index.vector.queryNodes($index, " then
    Members.get? "index" st.params
  else none

end Graph.Statement

def createdIndexes (log : List Turn) : List String :=
  log.filterMap fun turn => turn.exchange?.bind (·.statement.createdIndex?)

def searchedIndexes (log : List Turn) : List Json :=
  log.filterMap fun turn => turn.exchange?.bind (·.statement.searchedIndex?)

-- ---------------------------------------------------------------------------
-- The index that is made
-- ---------------------------------------------------------------------------

namespace Schema

theorem createdIndex?_createIndex {settings : Settings}
    (h : createIndex settings dimensions = .ok st) :
    st.createdIndex? = some (Text.trim settings.vectorIndex) := by
  obtain ⟨index, expression, tail, hindex, -, -, htext⟩ := text_createIndex h
  obtain ⟨-, rfl⟩ := quote_eq_ok_iff.mp hindex
  generalize hcs : Text.trimChars settings.vectorIndex.toList = cs at htext
  obtain ⟨rest, hrest, hlead⟩ : ∃ rest : List Char, rest.head? ≠ some '\x60' ∧
      st.text.toList =
        "CREATE VECTOR INDEX \x60".toList ++ (doubleBackticks cs ++ '\x60' :: rest) := by
    refine ⟨(" IF NOT EXISTS\nFOR (n" ++ (expression ++ tail)).toList, ?_, ?_⟩
    · simp [String.toList_append]
    · rw [htext]
      simp [quoteChars, String.toList_append]
  rw [Statement.createdIndex?, hlead, Text.dropLead?_append]
  simp only [Option.bind_eq_bind, Option.bind_some, readQuoted_doubleBackticks cs hrest]
  exact congrArg (fun cs => some (String.ofList cs)) hcs.symm

theorem createdIndex?_createConstraint : createConstraint.createdIndex? = none := by
  decide +kernel

theorem log_of_init {settings : Settings} (h : (init settings dimensions).Trace log (.ok ())) :
    ∃ st, createIndex settings dimensions = .ok st ∧
      log = [⟨.command st, .ok ()⟩, ⟨.command createConstraint, .ok ()⟩] := by
  unfold init at h
  by_cases hzero : dimensions = 0
  · rw [if_pos hzero] at h
    cases h.of_done.2
  rw [if_neg hzero] at h
  cases hst : createIndex settings dimensions with
  | error e =>
    rw [hst] at h
    cases h.of_done.2
  | ok st =>
    rw [hst] at h
    obtain ⟨a, log, rfl, hnext⟩ := Workflow.Trace.of_ask h
    rcases a with failure | _
    · cases hnext.of_done.2
    obtain ⟨a, log, rfl, hend⟩ := Workflow.Trace.of_ask hnext
    rcases a with failure | _
    · cases hend.of_done.2
    · obtain ⟨rfl, -⟩ := hend.of_done
      exact ⟨st, rfl, rfl⟩

theorem createdIndexes_init {settings : Settings}
    (h : (init settings dimensions).Trace log (.ok ())) :
    createdIndexes log = [Text.trim settings.vectorIndex] := by
  obtain ⟨st, hst, rfl⟩ := log_of_init h
  simp [createdIndexes, Turn.exchange?, createdIndex?_createIndex hst,
    createdIndex?_createConstraint]

end Schema

-- ---------------------------------------------------------------------------
-- The index that is searched
-- ---------------------------------------------------------------------------

theorem Graph.Statement.searchedIndex?_ofLines {lines : List String}
    (hline : line ∈ lines)
    (hcall : "CALL db.index.vector.queryNodes($index, ".toList <:+: line.toList)
    (params : List (String × Json)) (columns : List String) :
    (Statement.ofLines lines params columns).searchedIndex? =
      Members.get? "index" (Members.ofPairs params) := by
  refine if_pos (Text.occursIn_iff.mpr ?_)
  show _ <:+: ("\n".intercalate lines).toList
  rw [String.toList_intercalate]
  exact hcall.trans (Text.infix_intercalate (List.mem_map_of_mem hline))

namespace Node

theorem searchedIndex?_statement (reference : Reference) (index : String) (limit : Nat) :
    (reference.statement index limit).searchedIndex? = some (.str index) := by
  cases reference with
  | vertex nodeId =>
    refine (Statement.searchedIndex?_ofLines (.tail _ (.tail _ (.head _))) (by decide +kernel)
      _ _).trans ?_
    exact get?_params_statement (.vertex nodeId) (.head _)
  | embedding e =>
    refine (Statement.searchedIndex?_ofLines (.head _) (by decide +kernel) _ _).trans ?_
    exact get?_params_statement (.embedding e) (.head _)

theorem searchedIndex?_nearest (index : String) (e : List Binary64) (depth : Nat) :
    (nearest index e depth).searchedIndex? = some (.str index) := by
  have hkeys : ["index", "embedding"].Nodup := by decide
  refine (Statement.searchedIndex?_ofLines (.head _) (by decide +kernel) _ _).trans ?_
  exact Members.get?_ofPairs_of_mem hkeys (.head _)

theorem searchedIndex?_create (h : create labels ms = .ok st) : st.searchedIndex? = none := by
  obtain ⟨-, -, -, hparams⟩ := text_create h
  rw [Statement.searchedIndex?, hparams]
  split <;> rfl

-- ---------------------------------------------------------------------------
-- Operations that search
-- ---------------------------------------------------------------------------

/-- The searches of a log are in the index of a name, one for each embedding that was given. -/
def SearchesForEach (name : String) (log : List Turn) : Prop :=
  searchedIndexes log = (log.filterMap Turn.embedding?).map fun _ => .str name

/-- All that looks for similar nodes looks into the index of a name, whatever is answered: the search
of a creation, that for a term, and that for the nodes similar to what a query gives. -/
structure SearchesIn (settings : Settings) (name : String) : Prop where
  creations : ∀ bucket? c log r, (add settings bucket? c).Trace log r → SearchesForEach name log
  terms : ∀ q log r, (findNearest settings q).Trace log r → SearchesForEach name log
  queries : ∀ q log r, (findSimilar settings q).Trace log r →
    ((∃ reference limit, q.Asks reference limit) ∧ searchedIndexes log = [.str name]) ∨
      (∀ reference limit, ¬ q.Asks reference limit) ∧ log = []

theorem SearchesForEach.append (h : SearchesForEach name log) (h' : SearchesForEach name log') :
    SearchesForEach name (log ++ log') := by
  unfold SearchesForEach searchedIndexes at *
  rw [List.filterMap_append, List.filterMap_append, List.map_append, h, h']

theorem searchesForEach_of_search {st : Statement} (h : st.searchedIndex? = some (.str name))
    (text : String) (e : List Binary64) (rows : Except Failure (List Record)) :
    SearchesForEach name [⟨.embed text, .ok e⟩, ⟨.query st, rows⟩] := by
  simp [SearchesForEach, searchedIndexes, Turn.exchange?, Turn.embedding?, h]

theorem searchesForEach_of_create (h : create labels ms = .ok st) (name : String)
    (rows : Except Failure (List Record)) : SearchesForEach name [⟨.query st, rows⟩] := by
  simp [SearchesForEach, searchedIndexes, Turn.exchange?, Turn.embedding?, searchedIndex?_create h]

section
variable {settings : Settings} {bucket? : Option String} {c : Creation}

theorem Pictured.searchesForEach (h : Pictured name subject bucket? log key?) (index : String) :
    SearchesForEach index log := by
  cases h <;> rfl

theorem NotPictured.searchesForEach {failure : Failure}
    (h : NotPictured name subject bucket? log failure) (index : String) :
    SearchesForEach index log := by
  cases h <;> rfl

theorem Sent.searchesForEach (h : Sent labels properties log r) (index : String) :
    SearchesForEach index log := by
  cases h with
  | mislabeled => rfl
  | notCreated _ hst => exact searchesForEach_of_create hst index _
  | created hst => exact (searchesForEach_of_create hst index (.ok _)).append rfl

theorem searchesForEach_of_run (h : c.Run settings bucket? log r) :
    SearchesForEach settings.vectorIndex log := by
  have hsearch (name : String) (e : List Binary64) (rows : Except Failure (List Record)) :
      SearchesForEach settings.vectorIndex [⟨.embed (c.subject name), .ok e⟩,
        ⟨.query (similarToEmbedding settings.vectorIndex e 1), rows⟩] :=
    searchesForEach_of_search (searchedIndex?_statement (.embedding e) _ _) _ _ _
  cases h with
  | refused => rfl
  | notEmbedded => rfl
  | notCompared => exact hsearch _ _ _
  | similar => exact (hsearch _ _ (.ok _)).append rfl
  | notPictured _ _ _ hpicture => exact (hsearch _ _ (.ok _)).append (hpicture.searchesForEach _)
  | sent _ _ hpicture hsent =>
    exact ((hsearch _ _ (.ok _)).append (hpicture.searchesForEach _)).append
      (hsent.searchesForEach _)

theorem searchesForEach_of_findNearest {q : TermQuery}
    (h : (findNearest settings q).Trace log r) : SearchesForEach settings.vectorIndex log := by
  unfold findNearest at h
  cases hterm : requireGiven q.searchTerm "searchTerm" with
  | error e =>
    rw [hterm] at h
    obtain ⟨rfl, -⟩ := h.of_done
    rfl
  | ok term =>
    rw [hterm] at h
    cases hdepth : resolveDepth settings q.depth with
    | error e =>
      rw [hdepth] at h
      obtain ⟨rfl, -⟩ := h.of_done
      rfl
    | ok depth =>
      rw [hdepth] at h
      obtain ⟨a, log, rfl, hsearch⟩ := Workflow.Trace.of_ask h
      rcases a with failure | e
      · obtain ⟨rfl, -⟩ := hsearch.of_done
        rfl
      obtain ⟨rows, log, rfl, hend⟩ := Workflow.Trace.of_ask hsearch
      obtain rfl : log = [] := by
        rcases rows with failure | rows <;> exact hend.of_done.1
      exact searchesForEach_of_search (searchedIndex?_nearest _ e depth) _ _ _

theorem queries_of_findSimilar {q : SimilarityQuery} (h : (findSimilar settings q).Trace log r) :
    ((∃ reference limit, q.Asks reference limit) ∧
        searchedIndexes log = [.str settings.vectorIndex]) ∨
      (∀ reference limit, ¬ q.Asks reference limit) ∧ log = [] := by
  unfold findSimilar at h
  cases hst : q.statement settings with
  | error e =>
    rw [hst] at h
    refine .inr ⟨fun reference limit hasks => ?_, h.of_done.1⟩
    cases hst.symm.trans (statement_of_asks hasks settings)
  | ok st =>
    rw [hst] at h
    obtain ⟨rows, log, rfl, hend⟩ := Workflow.Trace.of_ask h
    obtain rfl : log = [] := by
      rcases rows with failure | rows <;> exact hend.of_done.1
    obtain ⟨reference, limit, hasks, rfl⟩ := asks_of_statement hst
    refine .inl ⟨⟨reference, limit, hasks⟩, ?_⟩
    simp [searchedIndexes, Turn.exchange?, searchedIndex?_statement]

end

theorem searchesIn_vectorIndex (settings : Settings) :
    SearchesIn settings settings.vectorIndex where
  creations _ _ _ _ h := searchesForEach_of_run (run_of_trace h)
  terms _ _ _ h := searchesForEach_of_findNearest h
  queries _ _ _ h := queries_of_findSimilar h

theorem likeNode_asks : likeNode.Asks (.vertex "n") 5 where
  gives := .vertex rfl (by decide) (by decide) rfl
  limited := rfl
  inRange := by decide

theorem searchedIndexes_likeNode (h : SearchesIn settings name) :
    searchedIndexes ((findSimilar settings likeNode).turns emptyStore ()) = [.str name] := by
  rcases h.queries _ _ _ (Workflow.trace_run emptyStore (findSimilar settings likeNode) ()) with
    ⟨-, hsearched⟩ | ⟨hnot, -⟩
  · exact hsearched
  · exact absurd likeNode_asks (hnot _ _)

theorem SearchesIn.eq (h : SearchesIn settings name) (h' : SearchesIn settings name') :
    name = name' := by
  have hboth := (searchedIndexes_likeNode h).symm.trans (searchedIndexes_likeNode h')
  cases hboth
  rfl

theorem searchesIn_iff : SearchesIn settings name ↔ name = settings.vectorIndex := by
  constructor
  · exact fun h => h.eq (searchesIn_vectorIndex settings)
  · rintro rfl
    exact searchesIn_vectorIndex settings

/-- Where the index and the constraint were made, one index was made. It is the one that is searched
exactly if its name in the settings has no blanks around it. -/
theorem created_index_is_searched_iff
    (h : (Schema.init settings dimensions).Trace log (.ok ())) :
    ∃ created, createdIndexes log = [created] ∧
      (SearchesIn settings created ↔ Text.trim settings.vectorIndex = settings.vectorIndex) ∧
      SearchesIn settings settings.vectorIndex :=
  ⟨_, Schema.createdIndexes_init h, searchesIn_iff, searchesIn_vectorIndex settings⟩

def tickedSettings : Settings := { vectorIndex := "my\x60index" }

theorem tickedIndex_is_searched :
    ∃ log, (Schema.init tickedSettings 3).Trace log (.ok ()) ∧
      createdIndexes log = ["my\x60index"] ∧ SearchesIn tickedSettings "my\x60index" := by
  have h : (Schema.init tickedSettings 3).Trace
      ((Schema.init tickedSettings 3).turns emptyStore ()) (.ok ()) :=
    Workflow.trace_run emptyStore _ ()
  have htrim : Text.trim "my\x60index" = "my\x60index" := by decide
  obtain ⟨created, hcreated, hsearched, -⟩ := created_index_is_searched_iff h
  have hsearched := hsearched.mpr htrim
  obtain rfl : created = "my\x60index" := searchesIn_iff.mp hsearched
  exact ⟨_, h, hcreated, hsearched⟩

def paddedSettings : Settings := { vectorIndex := " nodes " }

theorem paddedIndex_is_not_searched :
    ∃ log log', (Schema.init paddedSettings 3).Trace log (.ok ()) ∧
      createdIndexes log = ["nodes"] ∧
      (findSimilar paddedSettings likeNode).Trace log' (.ok []) ∧
      searchedIndexes log' = [.str " nodes "] := by
  have h : (Schema.init paddedSettings 3).Trace
      ((Schema.init paddedSettings 3).turns emptyStore ()) (.ok ()) :=
    Workflow.trace_run emptyStore _ ()
  have hsimilar : (findSimilar paddedSettings likeNode).Trace
      ((findSimilar paddedSettings likeNode).turns emptyStore ()) (.ok (rankSimilar [])) :=
    Workflow.trace_run emptyStore _ ()
  have hnone : rankSimilar [] = [] := List.mergeSort_nil
  have htrim : Text.trim " nodes " = "nodes" := by decide
  refine ⟨_, _, h, ?_, hnone ▸ hsimilar, ?_⟩
  · rw [Schema.createdIndexes_init h]
    exact congrArg (fun name => [name]) htrim
  · exact searchedIndexes_likeNode (searchesIn_vectorIndex paddedSettings)

end Node

end KnowledgeGraph
