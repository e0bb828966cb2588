import KnowledgeGraph.Proofs.Api.Refusals
import KnowledgeGraph.Proofs.Node.Creation

/-!
# Properties that are sent

A property of the graph is a scalar or a list, never an object. So a value that is one, or a list
with one in it, is sent as its text, and all others are sent as they are. Only the items of a list
itself are looked at, not the items of its items.
-/

namespace KnowledgeGraph

open Json (Members)

namespace Node

-- ---------------------------------------------------------------------------
-- Values
-- ---------------------------------------------------------------------------

/-- An object, or a list with an object at any depth. -/
inductive HoldsObject : Json → Prop where
  | obj (ms : Members) : HoldsObject (.obj ms)
  | item : v ∈ items → HoldsObject v → HoldsObject (.arr items)

/-- A list that has no object for an item, but an object deeper down. -/
inductive HidesObject : Json → Prop where
  | deeper : (∀ item ∈ items, isObject item = false) → v ∈ items → HoldsObject v →
      HidesObject (.arr items)

/-- What is sent for a value: itself, or its text if there is an object in it. -/
inductive Kept (v : Json) : Json → Prop where
  | same : Kept v v
  | text : HoldsObject v → Kept v (.str v.text)

theorem holdsObject_of_isObject (h : isObject v = true) : HoldsObject v := by
  cases v with
  | obj ms => exact .obj ms
  | _ => cases h

theorem kept_flattenValue (v : Json) : Kept v (flattenValue v) := by
  cases v with
  | obj ms => exact .text (.obj ms)
  | arr items =>
    unfold flattenValue
    dsimp only
    split
    · next hany =>
      obtain ⟨item, hitem, hobject⟩ := List.any_eq_true.mp hany
      exact .text (.item hitem (holdsObject_of_isObject hobject))
    · exact .same
  | _ => exact .same

theorem holdsObject_flattenValue_iff : HoldsObject (flattenValue v) ↔ HidesObject v := by
  cases v with
  | arr items =>
    unfold flattenValue
    dsimp only
    split
    · next hany =>
      refine iff_of_false (fun h => nomatch h) fun ⟨hnone, _, _⟩ => ?_
      obtain ⟨item, hitem, hobject⟩ := List.any_eq_true.mp hany
      rw [hnone item hitem] at hobject
      cases hobject
    · next hany =>
      have hnone : ∀ item ∈ items, isObject item = false := by simpa using hany
      exact ⟨fun | .item hv h => .deeper hnone hv h, fun | .deeper _ hv h => .item hv h⟩
  | _ => exact iff_of_false (fun h => nomatch h) fun h => nomatch h

-- ---------------------------------------------------------------------------
-- Maps of properties
-- ---------------------------------------------------------------------------

/-- What is sent for the given properties: every key with a value, apart from the keys that are
set for them, and no object unless a given value hides one. -/
structure SentFor (own : List String) (given sent : Members) : Prop where
  kept : ∀ key ∉ own, Option.Rel Kept (Members.get? key given) (Members.get? key sent)
  flat : (∀ key v, Members.get? key sent = some v → ¬ HoldsObject v) ↔
    ∀ key ∉ own, ∀ v, Members.get? key given = some v → ¬ HidesObject v

theorem sentFor_of_get? {given sent : Members}
    (hgiven : ∀ key ∉ own, Members.get? key sent = (Members.get? key given).map flattenValue)
    (hown : ∀ key ∈ own, ∀ v, Members.get? key sent = some v → ¬ HoldsObject v) :
    SentFor own given sent where
  kept key hkey := by
    rw [hgiven key hkey]
    cases Members.get? key given with
    | none => exact .none
    | some v => exact .some (kept_flattenValue v)
  flat := by
    constructor
    · intro h key hkey v hv hhides
      refine h key (flattenValue v) ?_ (holdsObject_flattenValue_iff.mpr hhides)
      rw [hgiven key hkey, hv]
      rfl
    · intro h key v hv hholds
      by_cases hkey : key ∈ own
      · exact hown key hkey v hv hholds
      · rw [hgiven key hkey] at hv
        obtain ⟨v', hv', rfl⟩ := Option.map_eq_some_iff.mp hv
        exact h key hkey v' hv' (holdsObject_flattenValue_iff.mp hholds)

theorem sentFor_flatten (given : Members) : SentFor [] given (flatten given) :=
  sentFor_of_get? (fun key _ => get?_flatten given key) (List.forall_mem_nil _)

/-- The keys that are set for a new node, whatever is given for them. -/
def ownKeys (bucket? : Option String) : List String :=
  embeddingProperty :: (bucket?.map fun _ => imageProperty).toList

theorem not_holdsObject_embedding (embedding : List Binary64) :
    ¬ HoldsObject (.arr (embedding.map .float)) := by
  rintro (_ | ⟨hv, hholds⟩)
  obtain ⟨x, -, rfl⟩ := List.mem_map.mp hv
  cases hholds

theorem sentFor_stored (c : Creation) {bucket? key? : Option String}
    (hkey : key?.isSome = bucket?.isSome) (embedding : List Binary64) :
    SentFor (ownKeys bucket?) c.properties (c.stored key? embedding) := by
  refine sentFor_of_get? (fun key hnot => ?_) fun key hmem v hv => ?_
  · rw [get?_stored]
    cases bucket? <;> simp_all [ownKeys, embeddingProperty, imageProperty]
  · rw [get?_stored] at hv
    split at hv
    · cases hv
      exact not_holdsObject_embedding embedding
    split at hv
    · obtain ⟨key, -, rfl⟩ := Option.map_eq_some_iff.mp hv
      rintro ⟨⟩
    · cases bucket? <;> simp_all [ownKeys, embeddingProperty, imageProperty]

-- ---------------------------------------------------------------------------
-- Statements
-- ---------------------------------------------------------------------------

/-- What is bound for the given properties, if any are given. -/
inductive Bound (own : List String) (given : Members) : Option Json → Prop where
  | map : SentFor own given ms → Bound own given (some (.obj ms))
  | absent : given = [] → Bound own given none
  | null : given = [] → Bound own given (some .null)

theorem bound_update {u : Update} (h : u.statement = .ok st) :
    Bound [] (u.properties.getD []) (Members.get? "properties" st.params) := by
  obtain ⟨targetId, -, h⟩ := bind_eq_ok_iff.mp h
  dsimp only at h
  split at h
  · obtain ⟨_, hthrow, -⟩ := bind_eq_ok_iff.mp h
    cases hthrow
  obtain ⟨expression, -, h⟩ := bind_eq_ok_iff.mp h
  cases pure_eq_ok_iff.mp h
  -- An empty map is as good as none.
  rcases u.properties with _ | _ | ⟨p, ps⟩
  · exact .absent rfl
  · exact .absent rfl
  · exact .map (sentFor_flatten _)

def IsSearch (settings : Graph.Settings) (st : Graph.Statement) : Prop :=
  ∃ embedding, st = similarToEmbedding settings.vectorIndex embedding 1

theorem bound_of_run {c : Creation} (h : c.Run settings bucket? log r)
    (hst : .query st ∈ log.map (·.call)) :
    IsSearch settings st ∨
      Bound (ownKeys bucket?) c.properties (Members.get? "properties" st.params) := by
  cases h with
  | refused _ => cases hst
  | notEmbedded _ _ => simp at hst
  | @notCompared _ embedding _ _ => exact .inl ⟨embedding, by simpa using hst⟩
  | @similar _ _ _ embedding _ _ =>
    exact .inl ⟨embedding, by simpa [Creation.compared] using hst⟩
  | @notPictured _ _ _ embedding _ _ _ hpicture =>
    exact .inl ⟨embedding, by simpa [Creation.compared, hpicture.not_query] using hst⟩
  | @sent _ _ _ _ embedding _ _ _ _ hpicture hsent =>
    simp only [List.map_append, List.mem_append, hpicture.not_query, or_false] at hst
    rcases hst with hst | hst
    · exact .inl ⟨embedding, by simpa [Creation.compared] using hst⟩
    · obtain ⟨_, _, _, hparams⟩ := text_create (hsent.create_eq hst)
      rw [hparams]
      exact .inr (.map (sentFor_stored c hpicture.isSome_eq _))

end Node

namespace Relationship

open Node (Bound sentFor_flatten)

theorem bound_create {c : Creation} (h : c.statement = .ok st) :
    Bound [] (c.properties.getD []) (Members.get? "properties" st.params) := by
  simp only [Creation.statement, create, bind_eq_ok_iff, pure_eq_ok_iff] at h
  obtain ⟨sourceId, -, targetId, -, type, -, quoted, -, rfl⟩ := h
  exact .map (sentFor_flatten _)

theorem bound_update {u : Update} (h : u.statement = .ok st) :
    Bound [] (u.properties.getD []) (Members.get? "properties" st.params) := by
  obtain ⟨targetId, -, h⟩ := bind_eq_ok_iff.mp h
  split at h
  · obtain ⟨quoted, -, h⟩ := bind_eq_ok_iff.mp h
    cases pure_eq_ok_iff.mp h
    cases u.properties with
    | none => exact .null rfl
    | some ps => exact .map (sentFor_flatten _)
  · next properties _ hproperties =>
    cases pure_eq_ok_iff.mp h
    obtain ⟨ps, hps, rfl⟩ := Option.map_eq_some_iff.mp hproperties
    rw [hps]
    exact .map (sentFor_flatten _)
  · cases h

end Relationship

-- ---------------------------------------------------------------------------
-- Operations
-- ---------------------------------------------------------------------------

namespace Api

open Node (Bound HoldsObject)
open Workflow

def Operation.given? : Operation α → Option Members
  | .addNode c => some c.properties
  | .changeNode u => some (u.properties.getD [])
  | .addRelationship c => some (c.properties.getD [])
  | .changeRelationship u => some (u.properties.getD [])
  | _ => none

def Operation.ownKeys (s : Service) : Operation α → List String
  | .addNode _ => Node.ownKeys s.imageBucket
  | _ => []

/-- Apart from a search for similar nodes, every statement that is sent binds all properties that a
client gives, and binds them without an object in them exactly if none of them is a list that hides
one. -/
theorem properties_are_sent_flat_iff (s : Service) (o : Operation α)
    (hgiven : o.given? = some given) (answer : (c : Call) → σ → c.Answer × σ) (x : σ) :
    ∀ st, .query st ∈ ((o.workflow s).turns answer x).map (·.call) →
      Node.IsSearch s.graph st ∨
        Bound (o.ownKeys s) given (Members.get? "properties" st.params) := by
  intro st hst
  cases o with
  | addNode c =>
    cases hgiven
    exact Node.bound_of_run (Node.run_of_trace (trace_run answer _ x)) hst
  | changeNode u =>
    cases hgiven
    refine .inr (Node.bound_update (checked_eq_of_query (fun rows kind => ?_) hst))
    exact only_bind (only_lift _) fun _ => only_pure _
  | addRelationship c =>
    cases hgiven
    exact .inr (Relationship.bound_create (checked_eq_of_query (fun rows kind => only_lift _) hst))
  | changeRelationship u =>
    cases hgiven
    exact .inr (Relationship.bound_update (checked_eq_of_query (fun rows kind => only_lift _) hst))
  | _ => cases hgiven

def datedUpdate : Node.Update where
  targetId := "4:x:1"
  labels := none
  properties := some [("origin", .obj [("year", .nat 2006)]), ("tags", .strings ["fast"])]

theorem not_hidesObject_datedUpdate (key : String) :
    ∀ v, Members.get? key (datedUpdate.properties.getD []) = some v → ¬ Node.HidesObject v := by
  intro v hv
  change Members.get? key [_, _] = some v at hv
  simp only [Members.get?] at hv
  split at hv
  · cases hv
    rintro ⟨⟩
  split at hv
  · cases hv
    rintro ⟨-, hv, hholds⟩
    cases List.mem_singleton.mp hv
    cases hholds
  · cases hv

theorem datedUpdate_is_sent_flat :
    (Operation.changeNode datedUpdate).given? = some (datedUpdate.properties.getD []) ∧
    ∃ st ms, .query st ∈ (((Operation.changeNode datedUpdate).workflow strictService).turns
        emptyStore ()).map (·.call) ∧
      Members.get? "properties" st.params = some (.obj ms) ∧
      Members.get? "origin" ms = some (.str "\x7b\"year\":2006\x7d") ∧
      ∀ key v, Members.get? key ms = some v → ¬ HoldsObject v := by
  obtain ⟨st, hst, hms⟩ :
      ∃ st, .query st ∈ (((Operation.changeNode datedUpdate).workflow strictService).turns
        emptyStore ()).map (·.call) ∧
      Members.get? "properties" st.params = some (.obj _) :=
    ⟨_, List.mem_cons_self, rfl⟩
  rcases properties_are_sent_flat_iff strictService (.changeNode datedUpdate) rfl emptyStore ()
    st hst with ⟨embedding, rfl⟩ | hbound
  · cases hms
  · rw [hms] at hbound
    cases hbound with
    | map hsent =>
      exact ⟨rfl, st, _, hst, hms, by rfl,
        hsent.flat.mpr fun key _ => not_hidesObject_datedUpdate key⟩

def nestedUpdate : Node.Update where
  targetId := "4:x:1"
  labels := none
  properties := some [("tags", .arr [.arr [.obj [("a", .nat 1)]]])]

theorem nestedUpdate_is_sent_with_its_object :
    ∃ st ms v, .query st ∈ (((Operation.changeNode nestedUpdate).workflow strictService).turns
        emptyStore ()).map (·.call) ∧
      Members.get? "properties" st.params = some (.obj ms) ∧
      Members.get? "tags" ms = some v ∧ HoldsObject v := by
  refine ⟨_, _, _, List.mem_cons_self, rfl, rfl, ?_⟩
  exact .item List.mem_cons_self (.item List.mem_cons_self (.obj _))

end Api

end KnowledgeGraph
