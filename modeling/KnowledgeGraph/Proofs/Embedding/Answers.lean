import Mathlib.Data.List.Forall2
import KnowledgeGraph.Embedding.Client
import KnowledgeGraph.Proofs.Text.Utf8
import KnowledgeGraph.Proofs.Wire.Nesting

/-!
# Answers of the embedding service

The first vector of an answer is what becomes of a text, whichever way the service wrote it, if it
has the dimensions that are asked for. No other vector ever does.
-/

namespace KnowledgeGraph.Embedding

open Wire Exchange

-- ---------------------------------------------------------------------------
-- What the service may answer
-- ---------------------------------------------------------------------------

/-- A list of numbers has these values. -/
inductive IsVector : Source → List Binary64 → Prop where
  | numbers (ns : List Json.Number) : IsVector (.list (ns.map .num)) (ns.map (·.toFloat))

/-- A list of vectors has this first one, or there is but one vector. An empty list is a list of no
vectors. -/
inductive IsVectors : Source → Option (List Binary64) → Prop where
  | pooled : List.Forall₂ IsVector sources vectors → IsVectors (.list sources) vectors.head?
  | flat : IsVector source v → v ≠ [] → IsVectors source (some v)

/-- An object has vectors under `embedding`, and anything under other names. -/
inductive IsItem : Source → Option (List Binary64) → Prop where
  | object : valuesOf "embedding" ms = [source] → IsVectors source first →
      IsItem (.object ms) first

/-- A list of items has this first vector in its first item, or there is but one item. -/
inductive Answers : Source → Option (List Binary64) → Prop where
  | items : List.Forall₂ IsItem sources firsts → Answers (.list sources) firsts.head?.join
  | item : IsItem source first → Answers source first

-- ---------------------------------------------------------------------------
-- Vectors
-- ---------------------------------------------------------------------------

theorem mapM_eq_ok_of_forall₂ {f : α → Except ε β}
    (h : List.Forall₂ (fun a b => f a = .ok b) as bs) : as.mapM f = .ok bs := by
  induction h with
  | nil => rfl
  | cons ha _ ih =>
    rw [List.mapM_cons, ha, ih]
    rfl

theorem read_vector (h : IsVector source v) (depth : Nat) :
    vector.read (depth + 1) source = .ok v := by
  cases h with
  | numbers ns =>
    show (Shape.list .float).read (depth + 1) _ = _
    rw [Shape.read]
    refine mapM_eq_ok_of_forall₂ ?_
    rw [List.forall₂_map_left_iff, List.forall₂_map_right_iff, List.forall₂_same]
    intro n _
    rw [Shape.read]

theorem read_pooled (h : List.Forall₂ IsVector sources vectors) (depth : Nat) :
    (Shape.list vector).read (depth + 2) (.list sources) = .ok vectors := by
  rw [Shape.read]
  exact mapM_eq_ok_of_forall₂ (h.imp fun _ _ hv => read_vector hv depth)

/-- A number is no vector, so one vector is no list of vectors unless it is empty. -/
theorem read_flat_ne_ok (h : IsVector source v) (hne : v ≠ []) (depth : Nat)
    (vectors : List (List Binary64)) : (Shape.list vector).read depth source ≠ .ok vectors := by
  cases h with
  | numbers ns =>
    cases ns with
    | nil => exact absurd rfl hne
    | cons n ns =>
      intro hread
      cases depth with
      | zero => simp [Shape.read] at hread
      | succ depth =>
        rw [Shape.read] at hread
        obtain ⟨a, ha⟩ := exists_of_mapM hread (.num n) List.mem_cons_self
        change (Shape.list .float).read depth (.num n) = .ok a at ha
        simp [Shape.read] at ha

-- ---------------------------------------------------------------------------
-- Items
-- ---------------------------------------------------------------------------

theorem readItem_of_isItem (h : IsItem source first) (hfits : source.Fits depth) :
    readItem source = .ok first := by
  cases h with
  | @object ms source first hvalues hvectors =>
    cases hfits with
    | object hkeys hms =>
      cases hvectors with
      | @pooled sources vectors hpooled =>
        have hread : (Shape.record (itemLayout (.list vector))).read maxDepth (.object ms) =
            .ok (vectors, ()) := Shape.read_field hvalues (read_pooled hpooled 124) hkeys hms
        rw [readItem, hread]
        rfl
      | @flat _ v hvector hne =>
        have hread : (Shape.record (itemLayout vector)).read maxDepth (.object ms) =
            .ok (v, ()) := Shape.read_field hvalues (read_vector hvector 125) hkeys hms
        cases hpooled : (Shape.record (itemLayout (.list vector))).read maxDepth (.object ms) with
        | ok r =>
          have hnot := read_flat_ne_ok hvector hne 126
          exact absurd hpooled (Shape.read_field_ne_ok rfl hvalues hnot r)
        | error fault =>
          rw [readItem, hpooled]
          dsimp only
          rw [hread]

-- ---------------------------------------------------------------------------
-- Answers
-- ---------------------------------------------------------------------------

theorem mapM_readItem (h : List.Forall₂ IsItem sources firsts)
    (hfits : ∀ v ∈ sources, v.Fits depth) : sources.mapM readItem = .ok firsts := by
  induction h with
  | nil => rfl
  | cons hitem _ ih =>
    obtain ⟨hfirst, hrest⟩ := List.forall_mem_cons.mp hfits
    rw [List.mapM_cons, readItem_of_isItem hitem hfirst, ih hrest]
    rfl

theorem readPayload_of_fits (h : Answers root first) (hfits : root.Fits maxDepth) :
    readPayload root = .ok first := by
  obtain ⟨j, hj⟩ := hfits.exists_toJson
  cases h with
  | items hitems =>
    unfold readPayload
    rw [hj]
    cases hfits with
    | list hfits =>
      dsimp only
      rw [mapM_readItem hitems hfits]
      rfl
  | item hitem =>
    unfold readPayload
    rw [hj]
    cases hitem with
    | object hvalues hvectors => exact readItem_of_isItem (.object hvalues hvectors) hfits

theorem readPayload_of_not_fits (h : ¬ root.Fits maxDepth) :
    ∃ fault, readPayload root = .error fault := by
  cases hj : root.toJson maxDepth with
  | ok j => exact absurd (root.fits_of_toJson hj) h
  | error fault =>
    unfold readPayload
    rw [hj]
    exact ⟨fault, rfl⟩

theorem checkVector_cases (dimensions : Nat) (v? : Option (List Binary64)) :
    (∃ v, v? = some v ∧ v.length = dimensions ∧ checkVector dimensions v? = .ok v) ∨
      ∃ cause, checkVector dimensions v? = .error (responseFailure cause) := by
  unfold checkVector
  split
  · exact .inr ⟨_, rfl⟩
  · next v hv =>
    split
    · next hlength => exact .inl ⟨v, (Option.filter_eq_some_iff.mp hv).1, hlength, rfl⟩
    · exact .inr ⟨_, rfl⟩

theorem checkVector_some (hn : 1 ≤ dimensions) (hlength : v.length = dimensions) :
    checkVector dimensions (some v) = .ok v := by
  have hkept : (some v).filter (!·.isEmpty) = some v := by
    cases v with
    | nil => exact absurd hlength (Nat.ne_of_lt hn)
    | cons x v => rfl
  rw [checkVector, hkept]
  exact if_pos hlength

theorem checkVector_eq_error (h : ∀ v, v? = some v → v.length ≠ dimensions) :
    ∃ cause, checkVector dimensions v? = .error (responseFailure cause) := by
  rcases checkVector_cases dimensions v? with ⟨v, hv, hlength, -⟩ | herror
  · exact absurd hlength (h v hv)
  · exact herror

section
variable {settings : Settings} {r : Response}

theorem readResponse_of_ok (hr : r.isSuccess = true) (hbody : Document.ofBytes r.body = ⟨root, true⟩)
    (h : readPayload root = .ok v?) :
    readResponse settings r = checkVector settings.dimensions v? := by
  unfold readResponse
  rw [hr, hbody, Document.read, h]
  rfl

theorem readResponse_of_error (hr : r.isSuccess = true)
    (hbody : Document.ofBytes r.body = ⟨root, true⟩) (h : readPayload root = .error fault) :
    ∃ cause, readResponse settings r = .error (responseFailure cause) := by
  unfold readResponse
  rw [hr, hbody, Document.read, h]
  exact ⟨_, rfl⟩

theorem length_of_readResponse (h : readResponse settings r = .ok v) :
    v.length = settings.dimensions := by
  unfold readResponse at h
  split at h
  · cases h
  · split at h
    · next v? _ =>
      rcases checkVector_cases settings.dimensions v? with ⟨v', -, hlength, hok⟩ | ⟨cause, herror⟩
      · cases hok.symm.trans h
        exact hlength
      · cases herror.symm.trans h
    · cases h

end

theorem embed_eq [Monad m] (settings : Settings) (sender : Sender m) (text : String) :
    embed settings sender text = do
      let outcome ← (request settings text).send "embedding_request" sender
      return outcome.bind (readResponse settings) := by
  unfold embed
  congr 1
  funext outcome
  cases outcome <;> rfl

/-- Of a response that can be held, the first vector becomes of the text, if it has the dimensions
that are asked for. If it has not, or the response cannot be held, that is a failure. No response
ever makes a vector of other dimensions. -/
theorem first_vectors_are_embeddings (settings : Settings) (hn : 1 ≤ settings.dimensions)
    (hr : r.isSuccess = true) (hbody : Document.ofBytes r.body = ⟨root, true⟩)
    (hanswers : Answers root first) :
    (∀ (m : Type → Type) [Monad m] (sender : Sender m) (text : String),
      embed settings sender text = do
        let outcome ← (request settings text).send "embedding_request" sender
        return outcome.bind (readResponse settings)) ∧
    (∀ v, first = some v → v.length = settings.dimensions → root.Fits maxDepth →
      readResponse settings r = .ok v) ∧
    ((∀ v, first = some v → v.length ≠ settings.dimensions) ∨ ¬ root.Fits maxDepth →
      ∃ cause, readResponse settings r = .error ⟨"embedding_response", cause⟩) ∧
    ∀ r' v, readResponse settings r' = .ok v → v.length = settings.dimensions := by
  refine ⟨fun m _ => embed_eq settings, ?_, ?_, fun r' v => length_of_readResponse⟩
  · rintro v rfl hlength hfits
    rw [readResponse_of_ok hr hbody (readPayload_of_fits hanswers hfits)]
    exact checkVector_some hn hlength
  · intro h
    by_cases hfits : root.Fits maxDepth
    · rw [readResponse_of_ok hr hbody (readPayload_of_fits hanswers hfits)]
      exact checkVector_eq_error (h.resolve_right (not_not_intro hfits))
    · obtain ⟨fault, hread⟩ := readPayload_of_not_fits hfits
      exact readResponse_of_error hr hbody hread

-- ---------------------------------------------------------------------------
-- Two answers
-- ---------------------------------------------------------------------------

def responseOf (j : Json) : Response := ⟨200, some "application/json", j.text.toUTF8⟩

theorem ofBytes_responseOf {j : Json} (h : j.isIntegral = true) :
    Document.ofBytes (responseOf j).body = ⟨.ofJson j, true⟩ := by
  have hbytes : Text.Utf8.decode (responseOf j).body.toList = j.text.toList.map some :=
    Text.Utf8.decode_bytes j.text
  rw [Document.ofBytes, hbytes]
  exact Document.ofText_text h

def pooledAnswer : Json :=
  .arr [.obj [("index", .int 0), ("embedding", .arr [.arr [.int 1, .int 2], .arr [.int 3]])],
    .obj [("embedding", .arr [.int 4, .int 5])]]

theorem answers_pooledAnswer : Answers (.ofJson pooledAnswer) (some [.ofInt 1, .ofInt 2]) := by
  have hfirst : IsItem (.object [(some "index", .num (.int 0)), (some "embedding",
      .list [.list [.num (.int 1), .num (.int 2)], .list [.num (.int 3)]])])
        (some [.ofInt 1, .ofInt 2]) :=
    .object rfl (.pooled (.cons (.numbers [.int 1, .int 2]) (.cons (.numbers [.int 3]) .nil)))
  have hsecond : IsItem (.object [(some "embedding", .list [.num (.int 4), .num (.int 5)])])
      (some [.ofInt 4, .ofInt 5]) := .object rfl (.flat (.numbers [.int 4, .int 5]) nofun)
  exact .items (.cons hfirst (.cons hsecond .nil))

theorem first_of_pooledAnswer_is_embedding :
    (responseOf pooledAnswer).isSuccess = true ∧
    Document.ofBytes (responseOf pooledAnswer).body = ⟨.ofJson pooledAnswer, true⟩ ∧
    Answers (.ofJson pooledAnswer) (some [.ofInt 1, .ofInt 2]) ∧
    readResponse ⟨"http://127.0.0.1:8080/embedding", 30, 2⟩ (responseOf pooledAnswer) =
      .ok [.ofInt 1, .ofInt 2] := by
  have hbody := ofBytes_responseOf (j := pooledAnswer) (by decide +kernel)
  have hfits : (Source.ofJson pooledAnswer).Fits maxDepth :=
    Source.exists_toJson_iff.mp ⟨_, rfl⟩
  refine ⟨rfl, hbody, answers_pooledAnswer, ?_⟩
  exact (first_vectors_are_embeddings _ (by decide) rfl hbody answers_pooledAnswer).2.1 _ rfl rfl
    hfits

def nested : Nat → Json
  | 0 => .arr []
  | n + 1 => .arr [nested n]

theorem isIntegral_nested (n : Nat) : (nested n).isIntegral = true := by
  induction n with
  | zero => rfl
  | succ n ih => simp [nested, Json.isIntegral, Json.allIntegral, ih]

theorem lt_of_fits_nested (h : (Source.ofJson (nested n)).Fits depth) : n < depth := by
  induction n generalizing depth with
  | zero => cases h with | list _ => exact Nat.succ_pos _
  | succ n ih =>
    cases h with
    | list hinner => exact Nat.succ_lt_succ (ih (hinner _ List.mem_cons_self))

def nestedAnswer : Json := .obj [("embedding", .arr [.int 1]), ("more", nested 126)]

theorem nestedAnswer_is_refused :
    (responseOf nestedAnswer).isSuccess = true ∧
    Document.ofBytes (responseOf nestedAnswer).body = ⟨.ofJson nestedAnswer, true⟩ ∧
    Answers (.ofJson nestedAnswer) (some [.ofInt 1]) ∧
    ∃ cause, readResponse ⟨"http://127.0.0.1:8080/embedding", 30, 1⟩ (responseOf nestedAnswer) =
      .error ⟨"embedding_response", cause⟩ := by
  have hintegral : nestedAnswer.isIntegral = true := by
    have hone : (Json.int 1).isIntegral = true := by decide
    simp [nestedAnswer, Json.isIntegral, Json.allMembersIntegral, Json.allIntegral, hone,
      isIntegral_nested]
  have hbody := ofBytes_responseOf hintegral
  have hnot : ¬ (Source.ofJson nestedAnswer).Fits maxDepth := by
    intro hfits
    cases hfits with
    | object _ hms =>
      have hmore := hms (some "more", Source.ofJson (nested 126))
        (List.mem_cons_of_mem _ List.mem_cons_self)
      exact absurd (lt_of_fits_nested hmore) (by decide)
  have hitem : IsItem (.ofJson nestedAnswer) (some [.ofInt 1]) :=
    .object rfl (.flat (.numbers [.int 1]) nofun)
  obtain ⟨fault, hread⟩ := readPayload_of_not_fits hnot
  exact ⟨rfl, hbody, .item hitem, readResponse_of_error rfl hbody hread⟩

end KnowledgeGraph.Embedding
