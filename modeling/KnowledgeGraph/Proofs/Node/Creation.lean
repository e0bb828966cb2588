import KnowledgeGraph.Node.Writing
import KnowledgeGraph.Proofs.Graph.Quoting
import KnowledgeGraph.Proofs.Json.Members
import KnowledgeGraph.Proofs.Workflow.Turns

/-!
# Creations of nodes

A creation asks one backend after another and stops at the first that fails. What it sends to the
graph store at the end is put together from the request, the embedding and the key of the picture,
and it is sent exactly if nothing came in between.
-/

namespace KnowledgeGraph

namespace Turn

def failed : Turn → Bool
  | ⟨.query _, .error _⟩ | ⟨.command _, .error _⟩ | ⟨.embed _, .error _⟩ | ⟨.draw _, .error _⟩
  | ⟨.put _ _ _, .error _⟩ | ⟨.get _ _, .error _⟩ => true
  | _ => false

def embedding? : Turn → Option (List Binary64)
  | ⟨.embed _, .ok embedding⟩ => some embedding
  | _ => none

def picture? : Turn → Option ByteArray
  | ⟨.draw _, .ok bytes⟩ => some bytes
  | _ => none

def seconds? : Turn → Option Nat
  | ⟨.now, seconds⟩ => some seconds
  | _ => none

end Turn

def external (log : List Turn) : List Turn := log.filter (·.call.IsBackend)

end KnowledgeGraph

namespace KnowledgeGraph.Node

open KnowledgeGraph.Graph
open Json (Members)

-- ---------------------------------------------------------------------------
-- The runs of a creation
-- ---------------------------------------------------------------------------

structure Creation.Names (c : Creation) (name : String) : Prop where
  labels : c.labels ≠ []
  properties : c.properties ≠ []
  named : ∃ raw, Members.get? "name" c.properties = some (.str raw) ∧ name = Text.trim raw
  given : name ≠ ""

theorem name?_eq_some_iff {c : Creation} : c.name? = some name ↔
    (∃ raw, Members.get? "name" c.properties = some (.str raw) ∧ name = Text.trim raw) ∧
      name ≠ "" := by
  simp only [Creation.name?, Option.bind_eq_some_iff, Text.trimmed?_eq_some_iff]
  constructor
  · rintro ⟨raw, ⟨v, hv, hraw⟩, htrim, hname⟩
    cases v with
    | str s =>
      cases hraw
      exact ⟨⟨_, hv, htrim⟩, hname⟩
    | _ => cases hraw
  · rintro ⟨⟨raw, hv, htrim⟩, hname⟩
    exact ⟨raw, ⟨.str raw, hv, rfl⟩, htrim, hname⟩

/-- The text whose embedding the node gets, and which its picture shows. -/
def Creation.subject (c : Creation) (name : String) : String := name ++ ": " ++ c.description

theorem eq_imagePrompt_iff {prompt subject : String} : prompt = imagePrompt subject ↔
    Text.stripLead? prompt "A minimalistic black-and-white line drawing of '" = some (subject ++
      ("'. The sketch is drawn with elegant, simple outlines, with no shading or extra details. " ++
        "The style is similar to high-fashion sketches, emphasizing grace.")) := by
  have hassoc (lead mid tail : String) :
      lead ++ subject ++ mid ++ tail = lead ++ (subject ++ (mid ++ tail)) := by
    simp only [String.append_assoc]
  rw [Text.stripLead?_eq_some_iff]
  exact Eq.congr_right (hassoc _ _ _)

def Creation.compared (settings : Settings) (c : Creation) (name : String)
    (embedding : List Binary64) (rows : List Record) : List Turn :=
  [⟨.embed (c.subject name), .ok embedding⟩,
    ⟨.query (similarToEmbedding settings.vectorIndex embedding 1), .ok rows⟩]

/-- The turns in which a picture is drawn and stored, if there is a place for it, and its key. -/
inductive Pictured (name subject : String) : Option String → List Turn → Option String → Prop where
  | unwanted : Pictured name subject none [] none
  | stored : Pictured name subject (some bucket)
      [⟨.draw (imagePrompt subject), .ok bytes⟩, ⟨.now, seconds⟩,
        ⟨.put bucket (imageKey name seconds) ⟨bytes, Asset.sniff bytes⟩, .ok ()⟩]
      (some (imageKey name seconds))

inductive NotPictured (name subject : String) : Option String → List Turn → Failure → Prop where
  | notDrawn (failure : Failure) : NotPictured name subject (some bucket)
      [⟨.draw (imagePrompt subject), .error failure⟩] failure
  | notStored (failure : Failure) : NotPictured name subject (some bucket)
      [⟨.draw (imagePrompt subject), .ok bytes⟩, ⟨.now, seconds⟩,
        ⟨.put bucket (imageKey name seconds) ⟨bytes, Asset.sniff bytes⟩, .error failure⟩]
      failure

def Creation.stored (c : Creation) (key? : Option String) (embedding : List Binary64) : Members :=
  let properties := match key? with
    | some key => c.properties.insert imageProperty (.str key)
    | none => c.properties
  flatten (properties.insert embeddingProperty (.arr (embedding.map .float)))

inductive Sent (labels : List String) (properties : Members) :
    List Turn → Except Error (List Record) → Prop where
  | mislabeled : (¬ ∀ label ∈ labels, IsName label) → Sent labels properties [] (.error e)
  | notCreated (failure : Failure) : create labels properties = .ok st →
      Sent labels properties [⟨.query st, .error failure⟩] (.error failure.toError)
  | created : create labels properties = .ok st →
      Sent labels properties [⟨.query st, .ok records⟩, ⟨.count .nodeCreated, ()⟩] (.ok records)

/-- The ways in which a creation goes, with all its turns and what comes of it. -/
inductive Creation.Run (settings : Settings) (bucket? : Option String) (c : Creation) :
    List Turn → Except Error (List Record) → Prop where
  | refused : (∀ name, ¬ c.Names name) → Run settings bucket? c [] (.error (.invalidInput message))
  | notEmbedded (failure : Failure) : c.Names name →
      Run settings bucket? c [⟨.embed (c.subject name), .error failure⟩] (.error failure.toError)
  | notCompared (failure : Failure) : c.Names name →
      Run settings bucket? c
        [⟨.embed (c.subject name), .ok embedding⟩,
          ⟨.query (similarToEmbedding settings.vectorIndex embedding 1), .error failure⟩]
        (.error failure.toError)
  | similar : c.Names name → tooSimilar? settings rows = some score →
      Run settings bucket? c
        (c.compared settings name embedding rows ++ [⟨.count .similarNodeRefused, ()⟩])
        (.error (.similarNodeExists score))
  | notPictured (failure : Failure) : c.Names name → tooSimilar? settings rows = none →
      NotPictured name (c.subject name) bucket? log failure →
      Run settings bucket? c (c.compared settings name embedding rows ++ log)
        (.error failure.toError)
  | sent : c.Names name → tooSimilar? settings rows = none →
      Pictured name (c.subject name) bucket? log key? →
      Sent c.labels (c.stored key? embedding) log' r →
      Run settings bucket? c (c.compared settings name embedding rows ++ log ++ log') r

theorem exists_create_iff :
    (∃ st, create labels properties = .ok st) ↔ ∀ label ∈ labels, IsName label := by
  rw [← exists_labelExpression_iff]
  simp only [create, bind_eq_ok_iff, pure_eq_ok_iff]
  constructor
  · rintro ⟨_, text, htext, -⟩
    exact ⟨text, htext⟩
  · rintro ⟨text, htext⟩
    exact ⟨_, text, htext, rfl⟩

theorem sent_of_trace {labels : List String} {properties : Members}
    (h : (liftM (create labels properties) >>= fun st => Workflow.query st >>= fun rows =>
      Workflow.count .nodeCreated >>= fun _ => pure rows).Trace log r) :
    Sent labels properties log r := by
  cases hst : create labels properties with
  | error e =>
    rw [hst] at h
    obtain ⟨rfl, rfl⟩ := h.of_done
    refine .mislabeled fun hnames => ?_
    obtain ⟨st, hst'⟩ := exists_create_iff.mpr hnames
    rw [hst] at hst'
    cases hst'
  | ok st =>
    rw [hst] at h
    obtain ⟨a, log, rfl, hcount⟩ := Workflow.Trace.of_ask h
    rcases a with failure | records
    · obtain ⟨rfl, rfl⟩ := hcount.of_done
      exact .notCreated failure hst
    · obtain ⟨_, log, rfl, hend⟩ := Workflow.Trace.of_ask hcount
      obtain ⟨rfl, rfl⟩ := hend.of_done
      exact .created hst

theorem run_of_trace {settings : Settings} {bucket? : Option String} {c : Creation}
    (h : (add settings bucket? c).Trace log r) : c.Run settings bucket? log r := by
  unfold add at h
  split at h
  · next hempty =>
    obtain ⟨rfl, rfl⟩ := h.of_done
    refine .refused fun name hname => ?_
    simp [hname.labels, hname.properties] at hempty
  next hempty =>
  split at h
  · next hnone =>
    obtain ⟨rfl, rfl⟩ := h.of_done
    refine .refused fun name hname => ?_
    rw [name?_eq_some_iff.mpr ⟨hname.named, hname.given⟩] at hnone
    cases hnone
  next name hname =>
  have hnames : c.Names name := by
    obtain ⟨hnamed, hgiven⟩ := name?_eq_some_iff.mp hname
    simp only [Bool.or_eq_true, List.isEmpty_iff, not_or] at hempty
    exact ⟨hempty.1, hempty.2, hnamed, hgiven⟩
  -- What is left are calls, each of which ends the creation if its backend failed.
  obtain ⟨a, log, rfl, hcompare⟩ := Workflow.Trace.of_ask h
  rcases a with failure | embedding
  · obtain ⟨rfl, rfl⟩ := hcompare.of_done
    exact .notEmbedded failure hnames
  obtain ⟨a, log, rfl, hgo⟩ := Workflow.Trace.of_ask hcompare
  rcases a with failure | rows
  · obtain ⟨rfl, rfl⟩ := hgo.of_done
    exact .notCompared failure hnames
  cases hsimilar : tooSimilar? settings rows with
  | some score =>
    simp only [Workflow.orFail, pure, Workflow.bind, hsimilar] at hgo
    obtain ⟨_, log, rfl, hend⟩ := Workflow.Trace.of_ask hgo
    obtain ⟨rfl, rfl⟩ := hend.of_done
    exact .similar hnames hsimilar
  | none =>
    simp only [Workflow.orFail, pure, Workflow.bind, hsimilar] at hgo
    cases bucket? with
    | none => exact .sent hnames hsimilar .unwanted (sent_of_trace hgo)
    | some bucket =>
      obtain ⟨a, log, rfl, hdrawn⟩ := Workflow.Trace.of_ask hgo
      rcases a with failure | bytes
      · obtain ⟨rfl, rfl⟩ := hdrawn.of_done
        exact .notPictured failure hnames hsimilar (.notDrawn failure)
      obtain ⟨seconds, log, rfl, hput⟩ := Workflow.Trace.of_ask hdrawn
      obtain ⟨a, log, rfl, hstored⟩ := Workflow.Trace.of_ask hput
      rcases a with failure | _
      · obtain ⟨rfl, rfl⟩ := hstored.of_done
        exact .notPictured failure hnames hsimilar (.notStored failure)
      · exact .sent hnames hsimilar .stored (sent_of_trace hstored)

theorem Sent.create_eq (h : Sent labels properties log r) (hst : .query st ∈ log.map (·.call)) :
    create labels properties = .ok st := by
  cases h <;> simp_all

theorem Pictured.not_query (h : Pictured name subject bucket? log key?) :
    .query st ∉ log.map (·.call) := by
  cases h <;> simp

theorem NotPictured.not_query {failure : Failure}
    (h : NotPictured name subject bucket? log failure) :
    .query st ∉ log.map (·.call) := by
  cases h <;> simp

theorem Pictured.isSome_eq (h : Pictured name subject bucket? log key?) :
    key?.isSome = bucket?.isSome := by
  cases h <;> rfl

-- ---------------------------------------------------------------------------
-- The plan of a creation
-- ---------------------------------------------------------------------------

/-- What a creation was told on its way: the first embedding, the first picture and the first
time. -/
structure Told where
  embedding : List Binary64
  picture : ByteArray
  seconds : Nat

def Told.ofLog (log : List Turn) : Told where
  embedding := (log.findSome? Turn.embedding?).getD []
  picture := (log.findSome? Turn.picture?).getD .empty
  seconds := (log.findSome? Turn.seconds?).getD 0

def Creation.planned (settings : Settings) (bucket? : Option String) (c : Creation)
    (name : String) (told : Told) : List Call :=
  [.embed (c.subject name), .query (similarToEmbedding settings.vectorIndex told.embedding 1)] ++
    match bucket? with
    | some bucket => [.draw (imagePrompt (c.subject name)),
        .put bucket (imageKey name told.seconds) ⟨told.picture, Asset.sniff told.picture⟩]
    | none => []

def IsCreate (st : Statement) : Prop := ∃ rest, st.text = "CREATE (n" ++ rest

def createTail : String :=
  ")" ++ "\n" ++ "SET n = $properties" ++ "\n" ++ ("RETURN " ++ nodeProjection "n" ++ " AS node")

structure Creation.Creates (bucket? : Option String) (c : Creation) (name : String) (told : Told)
    (st : Statement) : Prop where
  labels : ∃ rest, st.text = "CREATE (n" ++ rest ∧
    readLabels rest.toList = (c.labels.map Text.trim, createTail.toList)
  properties : ∃ ms, st.params = [("properties", .obj ms)] ∧
    (∀ key, Members.get? key ms =
      if key = "embedding" then some (.arr (told.embedding.map .float))
      else if key = "image" ∧ bucket?.isSome then some (.str (imageKey name told.seconds))
      else (Members.get? key c.properties).map flattenValue) ∧
    (Members.Sorted c.properties → Members.Sorted ms)

/-- No score of the best match is above the threshold. -/
def Unlike (settings : Settings) (rows : List Record) : Prop :=
  ∀ score, rows.head?.bind (·.float? "score") = some score →
    score.gt settings.similarityThreshold = false

structure Creation.Clear (settings : Settings) (bucket? : Option String) (c : Creation)
    (name : String) (log : List Turn) : Prop where
  succeeded : ∀ turn ∈ external log, turn.call ∈ c.planned settings bucket? name (.ofLog log) →
    turn.failed = false
  unlike : ∀ rows,
    ⟨similarToEmbedding settings.vectorIndex (Told.ofLog log).embedding 1, .ok rows⟩ ∈
      (external log).filterMap Turn.exchange? → Unlike settings rows
  labels : ∀ label ∈ c.labels, IsName label

/-- How a creation goes: it makes the calls of its plan in their order, each at most once and none
after one that failed, and then makes the node, exactly if nothing is in the way. -/
structure Creation.Course (settings : Settings) (bucket? : Option String) (c : Creation)
    (name : String) (log : List Turn) : Prop where
  follows : (external log).map (·.call) <+: c.planned settings bucket? name (.ofLog log) ∨
    ∃ st, c.Creates bucket? name (.ofLog log) st ∧ (external log).map (·.call) =
      c.planned settings bucket? name (.ofLog log) ++ [.query st]
  once : ((external log).map (·.call)).Nodup
  stops : ∀ turn ∈ (external log).dropLast, turn.failed = false
  sent : (∃ st, .query st ∈ (external log).map (·.call) ∧ IsCreate st) ↔
    c.Clear settings bucket? name log

-- ---------------------------------------------------------------------------
-- What a creation sends
-- ---------------------------------------------------------------------------

theorem text_create (h : create labels properties = .ok st) :
    ∃ expression, labelExpression labels = .ok expression ∧
      st.text = "CREATE (n" ++ (expression ++ createTail) ∧
      st.params = [("properties", .obj properties)] := by
  obtain ⟨expression, hexpression, h⟩ := bind_eq_ok_iff.mp h
  cases pure_eq_ok_iff.mp h
  refine ⟨expression, hexpression, ?_, rfl⟩
  show ((("CREATE (n" ++ expression ++ ")") ++ "\n" ++ "SET n = $properties") ++ "\n") ++
    ("RETURN " ++ nodeProjection "n" ++ " AS node") = _
  simp only [createTail, String.append_assoc]

theorem endsLabels_createTail : EndsLabels createTail.toList := by
  simp only [createTail, String.append_assoc, String.toList_append]
  exact ⟨by decide, by decide⟩

theorem not_isCreate_similarToEmbedding :
    ¬ IsCreate (similarToEmbedding index embedding limit) := by
  rintro ⟨rest, h⟩
  have htext : (similarToEmbedding index embedding limit).text =
      "CALL db.index.vector.queryNodes($index, $limit, $embedding)" ++ ("\n" ++
        ("YIELD node, score" ++ ("\n" ++
          (similarityResult ++ ("\n" ++ "ORDER BY score DESC"))))) := by
    show ((_ ++ "\n" ++ _) ++ "\n" ++ _) ++ "\n" ++ _ = _
    simp only [String.append_assoc]
  have hsecond := congrArg (fun text => text.toList[1]?) (htext.symm.trans h)
  simp only [String.toList_append] at hsecond
  cases hsecond

theorem get?_flatten (ms : Members) (key : String) :
    Members.get? key (flatten ms) = (Members.get? key ms).map flattenValue :=
  Members.get?_map_snd flattenValue ms key

theorem get?_stored (c : Creation) (key? : Option String) (embedding : List Binary64)
    (key : String) : Members.get? key (c.stored key? embedding) =
      if key = "embedding" then some (.arr (embedding.map .float))
      else if key = "image" ∧ key?.isSome then key?.map .str
      else (Members.get? key c.properties).map flattenValue := by
  unfold Creation.stored
  dsimp only
  rw [get?_flatten, Members.get?_insert]
  by_cases hembedding : embeddingProperty = key
  · subst hembedding
    simp [embeddingProperty, flattenValue, isObject, Json.float]
  · have hne : ¬ key = "embedding" := fun h => hembedding h.symm
    rw [if_neg hembedding, if_neg hne]
    cases key? with
    | none => simp
    | some image =>
      dsimp only
      rw [Members.get?_insert]
      by_cases himage : imageProperty = key
      · subst himage
        simp [imageProperty, flattenValue]
      · have hne : ¬ key = "image" := fun h => himage h.symm
        simp [himage, hne]

theorem sorted_flatten {ms : Members} (h : Members.Sorted ms) : Members.Sorted (flatten ms) := by
  unfold Members.Sorted flatten
  rw [List.map_map]
  exact h

theorem sorted_stored {c : Creation} (h : Members.Sorted c.properties) (key? : Option String)
    (embedding : List Binary64) : Members.Sorted (c.stored key? embedding) := by
  cases key? with
  | none => exact sorted_flatten (h.insert _ _)
  | some key => exact sorted_flatten ((h.insert _ _).insert _ _)

theorem creates_of_create {bucket? : Option String} {c : Creation} {told : Told}
    (hkey : key? = bucket?.map fun _ => imageKey name told.seconds)
    (h : create c.labels (c.stored key? told.embedding) = .ok st) :
    c.Creates bucket? name told st := by
  obtain ⟨expression, hexpression, htext, hparams⟩ := text_create h
  refine ⟨⟨expression ++ createTail, htext, ?_⟩, _, hparams, fun key => ?_, fun hsorted =>
    sorted_stored hsorted _ _⟩
  · rw [String.toList_append]
    exact readLabels_labelExpression hexpression endsLabels_createTail
  · rw [get?_stored, hkey]
    cases bucket? <;> simp

theorem tooSimilar?_eq_none_iff : tooSimilar? settings rows = none ↔ Unlike settings rows := by
  unfold tooSimilar? Unlike
  simp only [Option.filter_eq_none_iff, Bool.not_eq_true]

-- ---------------------------------------------------------------------------
-- The course of a creation
-- ---------------------------------------------------------------------------

section
variable {settings : Settings} {bucket? : Option String} {c : Creation}

theorem notMem_planned (h : IsCreate st) :
    .query st ∉ c.planned settings bucket? name told := by
  intro hmem
  have hst : st = similarToEmbedding settings.vectorIndex told.embedding 1 := by
    cases bucket? <;> simpa [Creation.planned] using hmem
  exact not_isCreate_similarToEmbedding (hst ▸ h)

theorem nodup_planned : (c.planned settings bucket? name told).Nodup := by
  cases bucket? <;> simp [Creation.planned]

theorem Creation.Creates.isCreate (h : c.Creates bucket? name told st) : IsCreate st :=
  h.labels.imp fun _ h => h.1

theorem forall_mem_of_all {log : List Turn} (h : log.all (!·.failed) = true) :
    ∀ turn ∈ log, turn.failed = false := by
  simpa using h

theorem course_of_prefix
    (hcalls : (external log).map (·.call) <+: c.planned settings bucket? name (.ofLog log))
    (hstops : (external log).dropLast.all (!·.failed) = true)
    (hnot : ¬ c.Clear settings bucket? name log) : c.Course settings bucket? name log where
  follows := .inl hcalls
  once := hcalls.sublist.nodup nodup_planned
  stops := forall_mem_of_all hstops
  sent := by
    refine iff_of_false ?_ hnot
    rintro ⟨st, hst, hcreate⟩
    exact notMem_planned hcreate (hcalls.subset hst)

theorem course_of_failed
    (hcalls : (external log).map (·.call) <+: c.planned settings bucket? name (.ofLog log))
    (hstops : (external log).dropLast.all (!·.failed) = true)
    (hlast : (external log).getLast? = some turn) (hfailed : turn.failed = true) :
    c.Course settings bucket? name log := by
  refine course_of_prefix hcalls hstops fun hclear => ?_
  have hmem : turn ∈ external log := List.mem_of_getLast? hlast
  have hsucceeded := hclear.succeeded turn hmem (hcalls.subset (List.mem_map_of_mem hmem))
  rw [hfailed] at hsucceeded
  cases hsucceeded

theorem course_of_sent {answer : (Call.query st).Answer}
    (hcalls : (external log).dropLast.map (·.call) = c.planned settings bucket? name (.ofLog log))
    (hstops : (external log).dropLast.all (!·.failed) = true)
    (hlast : (external log).getLast? = some ⟨.query st, answer⟩)
    (hexchanges : (external log).dropLast.filterMap Turn.exchange? =
      [⟨similarToEmbedding settings.vectorIndex (Told.ofLog log).embedding 1, .ok rows⟩])
    (hunlike : Unlike settings rows) (hcreates : c.Creates bucket? name (.ofLog log) st)
    (hlabels : ∀ label ∈ c.labels, IsName label) : c.Course settings bucket? name log := by
  have hlog := List.dropLast_append_getLast? _ hlast
  have hstops := forall_mem_of_all hstops
  generalize hdone : (external log).dropLast = done at hlog hcalls hstops hexchanges
  refine ⟨.inr ⟨st, hcreates, ?_⟩, ?_, hdone ▸ hstops,
    iff_of_true ⟨st, ?_, hcreates.isCreate⟩ ⟨?_, ?_, hlabels⟩⟩
  · rw [← hlog, List.map_append, hcalls]
    rfl
  · rw [← hlog, List.map_append, hcalls, List.nodup_append]
    refine ⟨nodup_planned, List.pairwise_singleton _ _, ?_⟩
    rintro call hcall _ hst rfl
    rw [List.mem_singleton.mp hst] at hcall
    exact notMem_planned hcreates.isCreate hcall
  · rw [← hlog, List.map_append]
    exact List.mem_append_right _ List.mem_cons_self
  · rw [← hlog, List.forall_mem_append, List.forall_mem_singleton]
    exact ⟨fun turn hturn _ => hstops turn hturn,
      fun hst => absurd hst (notMem_planned hcreates.isCreate)⟩
  · intro rows' hrows
    rw [← hlog, List.filterMap_append, hexchanges] at hrows
    rcases List.mem_cons.mp hrows with hrows | hrows
    · cases hrows
      exact hunlike
    · cases List.mem_singleton.mp hrows
      exact absurd hcreates.isCreate not_isCreate_similarToEmbedding

/-- However a creation that gives a name goes, it is one course of its plan. -/
theorem course_of_run (h : c.Run settings bucket? log r) :
    (∃ name, c.Names name ∧ c.Course settings bucket? name log) ∨
      (∀ name, ¬ c.Names name) ∧ log = [] := by
  cases h with
  | refused hnot => exact .inr ⟨hnot, rfl⟩
  | @notEmbedded name failure hnames =>
    exact .inl ⟨name, hnames, course_of_failed ⟨_, rfl⟩ rfl rfl rfl⟩
  | @notCompared name embedding failure hnames =>
    exact .inl ⟨name, hnames, course_of_failed ⟨_, rfl⟩ rfl rfl rfl⟩
  | @similar name rows score embedding hnames hsimilar =>
    refine .inl ⟨name, hnames, course_of_prefix ⟨_, rfl⟩ rfl fun h => ?_⟩
    have hunlike := h.unlike rows List.mem_cons_self
    rw [tooSimilar?_eq_none_iff.mpr hunlike] at hsimilar
    cases hsimilar
  | @notPictured name rows log embedding failure hnames hsimilar hpicture =>
    refine .inl ⟨name, hnames, ?_⟩
    cases hpicture with
    | notDrawn => exact course_of_failed ⟨_, rfl⟩ rfl rfl rfl
    | notStored => exact course_of_failed ⟨_, rfl⟩ rfl rfl rfl
  -- A picture or none: the plans differ, but each way to its end follows one of them.
  | @sent name rows log key? embedding log' r hnames hsimilar hpicture hsent =>
    refine .inl ⟨name, hnames, ?_⟩
    have hunlike := tooSimilar?_eq_none_iff.mp hsimilar
    cases hsent with
    | mislabeled hlabels =>
      cases hpicture with
      | unwanted => exact course_of_prefix ⟨_, rfl⟩ rfl fun h => hlabels h.labels
      | stored => exact course_of_prefix ⟨_, rfl⟩ rfl fun h => hlabels h.labels
    | @notCreated st failure hst =>
      have hlabels := exists_create_iff.mp ⟨st, hst⟩
      cases hpicture with
      | unwanted =>
        exact course_of_sent rfl rfl rfl rfl hunlike (creates_of_create rfl hst) hlabels
      | stored =>
        exact course_of_sent rfl rfl rfl rfl hunlike (creates_of_create rfl hst) hlabels
    | @created st records hst =>
      have hlabels := exists_create_iff.mp ⟨st, hst⟩
      cases hpicture with
      | unwanted =>
        exact course_of_sent rfl rfl rfl rfl hunlike (creates_of_create rfl hst) hlabels
      | stored =>
        exact course_of_sent rfl rfl rfl rfl hunlike (creates_of_create rfl hst) hlabels

end

theorem Creation.Names.eq {c : Creation} (h : c.Names name) (h' : c.Names name') :
    name = name' :=
  Option.some.inj ((name?_eq_some_iff.mpr ⟨h.named, h.given⟩).symm.trans
    (name?_eq_some_iff.mpr ⟨h'.named, h'.given⟩))

/-- A creation that says what it must makes the calls of its plan, and makes its node exactly if
nothing is in the way; any other creation makes no call. -/
theorem creations_follow_their_plan (settings : Settings) (bucket? : Option String) (c : Creation)
    (answer : (c : Call) → σ → c.Answer × σ) (s : σ) :
    (∀ name, c.Names name →
      c.Course settings bucket? name ((add settings bucket? c).turns answer s)) ∧
    ((∀ name, ¬ c.Names name) → (add settings bucket? c).turns answer s = []) := by
  rcases course_of_run (run_of_trace (Workflow.trace_run answer (add settings bucket? c) s)) with
    ⟨name, hname, hcourse⟩ | ⟨hnot, hlog⟩
  · exact ⟨fun name' hname' => hname.eq hname' ▸ hcourse, fun hnot => absurd hname (hnot name)⟩
  · exact ⟨fun name hname => absurd hname (hnot name), fun _ => hlog⟩

def rust : Creation where
  labels := [" Skill"]
  properties := [("name", .str " Rust "), ("origin", .obj [("year", .nat 2006)])]

theorem rust_names : rust.Names "Rust" where
  labels := List.cons_ne_nil _ _
  properties := List.cons_ne_nil _ _
  named := ⟨" Rust ", rfl, rfl⟩
  given := by decide

theorem calls_rust : ∃ st,
    (external ((add {} (some "pictures") rust).turns emptyStore ())).map (·.call) =
      [.embed (rust.subject "Rust"), .query (similarToEmbedding "nodeEmbeddings" [] 1),
        .draw (imagePrompt (rust.subject "Rust")),
        .put "pictures" (imageKey "Rust" 0) ⟨.empty, Asset.sniff .empty⟩, .query st] ∧
    create rust.labels (rust.stored (some (imageKey "Rust" 0)) []) = .ok st :=
  ⟨_, rfl, rfl⟩

theorem rust_is_created :
    rust.Names "Rust" ∧
    rust.Course {} (some "pictures") "Rust"
      ((add {} (some "pictures") rust).turns emptyStore ()) ∧
    (∃ st, (external ((add {} (some "pictures") rust).turns emptyStore ())).map (·.call) =
        [.embed "Rust: ", .query (similarToEmbedding "nodeEmbeddings" [] 1),
          .draw ("A minimalistic black-and-white line drawing of 'Rust: '. The sketch is drawn " ++
            "with elegant, simple outlines, with no shading or extra details. The style is " ++
            "similar to high-fashion sketches, emphasizing grace."),
          .put "pictures" "Rust_1970-01-01 00:00:00.png" ⟨.empty, "application/octet-stream"⟩,
          .query st] ∧
      IsCreate st ∧
      st.text = "CREATE (n:\x60Skill\x60)\nSET n = $properties\n" ++
        "RETURN \x7bId: id(n), ElementId: elementId(n), Labels: labels(n), " ++
          "Props: properties(n)\x7d AS node" ∧
      st.params = [("properties", .obj [("embedding", .arr []),
        ("image", .str "Rust_1970-01-01 00:00:00.png"), ("name", .str " Rust "),
        ("origin", .str "\x7b\"year\":2006\x7d")])]) ∧
    (∀ name, ¬ { rust with labels := [] }.Names name) ∧
    (add {} none { rust with labels := [] }).turns emptyStore () = [] := by
  have hcourse := (creations_follow_their_plan {} (some "pictures") rust emptyStore ()).1 "Rust"
    rust_names
  have hnot : ∀ name, ¬ Creation.Names { rust with labels := [] } name :=
    fun name h => h.labels rfl
  refine ⟨rust_names, hcourse, ?_, hnot,
    (creations_follow_their_plan {} none _ emptyStore ()).2 hnot⟩
  obtain ⟨st, hcalls, hst⟩ := calls_rust
  obtain ⟨expression, hlabels, htext, hproperties⟩ := text_create hst
  obtain rfl : ":\x60Skill\x60" = expression := Except.ok.inj (Eq.trans rfl hlabels)
  have hsubject : rust.subject "Rust" = "Rust: " := by decide +kernel
  have hkey : imageKey "Rust" 0 = "Rust_1970-01-01 00:00:00.png" := by decide +kernel
  have hprompt : imagePrompt "Rust: " =
      "A minimalistic black-and-white line drawing of 'Rust: '. The sketch is drawn " ++
        "with elegant, simple outlines, with no shading or extra details. The style is " ++
        "similar to high-fashion sketches, emphasizing grace." := by
    decide +kernel
  have hsniff : Asset.sniff .empty = "application/octet-stream" := by decide +kernel
  refine ⟨st, ?_, ⟨_, htext⟩, htext.trans (by decide +kernel), hproperties.trans rfl⟩
  rw [hcalls, hsubject, hkey, hprompt, hsniff]

end KnowledgeGraph.Node
