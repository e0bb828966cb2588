import Mathlib.Data.List.Forall2
import KnowledgeGraph.Proofs.Domain.Edit
import KnowledgeGraph.Proofs.Workflow.Turns

/-!
# The sequence of writes of an edit

What an edit of a domain does, deed by deed, given the ids that the store answers. The workflows
follow it: they send statements that do the deeds of the sequence in order, as long as each answer
lets them go on, and succeed exactly if they get to its end.
-/

namespace KnowledgeGraph

open KnowledgeGraph.Graph (Deed Statement Record)

namespace Domain

theorem returnedId_of_some {id : String} (h : elementId? rows = some id) :
    returnedId rows operation = .ok id := by
  unfold elementId? at h
  simp [returnedId, h]

theorem returnedId_of_none (h : elementId? rows = none) :
    returnedId rows operation = .error (.operationFailed operation "no element id returned") := by
  unfold elementId? at h
  simp [returnedId, h]

end Domain

def Exchange.id? (x : Exchange) : Option String :=
  match x.answer with
  | .ok rows => Domain.elementId? rows
  | .error _ => none

namespace Domain

/-- A deed to do, whether the rows that it is answered let the sequence go on, and the node that it
makes for a demand. -/
structure Write where
  deed : Deed Json
  enough : List Record → Bool
  made : Option CreatedNode

namespace Write

def plain (d : Deed Json) : Write := ⟨d, fun _ => true, none⟩

def creating (d : Deed Json) (made : Option CreatedNode) : Write :=
  ⟨d, fun rows => (elementId? rows).isSome, made⟩

structure IsCarriedOut (w : Write) (x : Exchange) : Prop where
  deed : x.statement.deed? = some w.deed
  answer : ∃ rows, x.answer = .ok rows ∧ w.enough rows

end Write

abbrev CarriedOut : List Write → List Exchange → Prop := List.Forall₂ Write.IsCarriedOut

/-- The exchanges are those of the sequence up to the first that did not go well. -/
inductive BrokenOff : List Write → List Exchange → Prop where
  | here : x.statement.deed? = some w.deed → ¬ w.IsCarriedOut x → BrokenOff (w :: ws) [x]
  | later : w.IsCarriedOut x → BrokenOff ws log → BrokenOff (w :: ws) (x :: log)

theorem BrokenOff.append (h : BrokenOff ws log) : BrokenOff (ws ++ ws') log := by
  induction h with
  | here hs hx => exact .here hs hx
  | later hx _ ih => exact .later hx ih

theorem CarriedOut.append_brokenOff (h : CarriedOut ws log) (h' : BrokenOff ws' log') :
    BrokenOff (ws ++ ws') (log ++ log') := by
  induction h with
  | nil => exact h'
  | cons hx _ ih => exact .later hx ih

-- ---------------------------------------------------------------------------
-- Following a sequence
-- ---------------------------------------------------------------------------

/-- The ids are those that the exchanges answered, the first of which is at place `k`. -/
def Agrees (ids : Nat → String) (k : Nat) (log : List Exchange) : Prop :=
  ∀ i x id, log[i]? = some x → x.id? = some id → ids (k + i) = id

def idAt (log : List Exchange) (k : Nat) : String := ((log[k]?).bind (·.id?)).getD ""

theorem agrees_idAt (log : List Exchange) : Agrees (idAt log) 0 log := by
  intro i x id hx hid
  simp [idAt, hx, hid]

theorem agrees_cons : Agrees ids k (x :: log) ↔
    (∀ id, x.id? = some id → ids k = id) ∧ Agrees ids (k + 1) log := by
  constructor
  · intro h
    refine ⟨fun id => h 0 x id rfl, fun i y id hy => ?_⟩
    rw [Nat.add_assoc, Nat.add_comm 1 i]
    exact h (i + 1) y id hy
  · rintro ⟨hx, hlog⟩ i y id hy hid
    cases i with
    | zero =>
      cases hy
      exact hx id hid
    | succ i =>
      rw [← Nat.add_assoc, Nat.add_right_comm]
      exact hlog i y id hy hid

theorem agrees_append : Agrees ids k (log ++ log') ↔
    Agrees ids k log ∧ Agrees ids (k + log.length) log' := by
  induction log generalizing k with
  | nil => simp [Agrees]
  | cons x log ih =>
    rw [List.cons_append, agrees_cons, agrees_cons, ih, and_assoc, List.length_cons,
      Nat.add_assoc, Nat.add_comm 1]

/-- Sends the sequence, whose first statement is at place `k`: to its end, with a result that
satisfies `Q`, or up to a statement that does not go well, with an error. -/
def Follows (answer : (c : Call) → σ → c.Answer × σ) (ids : Nat → String) (k : Nat)
    (w : Workflow α) (ws : List Write) (Q : α → Prop) : Prop :=
  ∀ s, Agrees ids k (w.exchanges answer s) →
    (∃ a s', w.run answer s = (.ok a, s') ∧ CarriedOut ws (w.exchanges answer s) ∧ Q a) ∨
    (∃ e s', w.run answer s = (.error e, s') ∧ BrokenOff ws (w.exchanges answer s))

namespace Follows

variable {answer : (c : Call) → σ → c.Answer × σ} {ids : Nat → String} {k : Nat}

theorem pure (h : Q a) : Follows answer ids k (pure a) [] Q :=
  fun s _ => .inl ⟨a, s, rfl, .nil, h⟩

theorem bind {f : α → Workflow β} (hw : Follows answer ids k w ws Q)
    (hf : ∀ a, Q a → Follows answer ids (k + ws.length) (f a) ws' R) :
    Follows answer ids k (w >>= f) (ws ++ ws') R := by
  intro s hs
  rw [Workflow.exchanges_bind] at hs ⊢
  rw [Workflow.run_bind]
  obtain ⟨hlog, hrest⟩ := agrees_append.mp hs
  rcases hw s hlog with ⟨a, s', hrun, hdone, hq⟩ | ⟨e, s', hrun, hbroken⟩
  · simp only [hrun, ← hdone.length_eq] at hrest ⊢
    rcases hf a hq s' hrest with ⟨b, s'', hrun', hdone', hr⟩ | ⟨e, s'', hrun', hbroken⟩
    · exact .inl ⟨b, s'', hrun', List.rel_append hdone hdone', hr⟩
    · exact .inr ⟨e, s'', hrun', hdone.append_brokenOff hbroken⟩
  · simp only [hrun, List.append_nil]
    exact .inr ⟨e, s', rfl, hbroken.append⟩

/-- A statement and the rest: the rest follows if the rows are enough, and refuses otherwise. -/
theorem query {w : Write} {st : Statement} {f : List Record → Workflow β}
    (hst : st.deed? = some w.deed)
    (henough : ∀ rows, w.enough rows → (∀ id, elementId? rows = some id → ids k = id) →
      Follows answer ids (k + 1) (f rows) ws Q)
    (hnot : ∀ rows, w.enough rows = false → ∃ e, f rows = Workflow.refuse e) :
    Follows answer ids k (Workflow.query st >>= f) (w :: ws) Q := by
  intro s hs
  rcases ha : answer (.query st) s with ⟨e | rows, s'⟩
  · rw [Workflow.exchanges_query_bind_of_error ha, Workflow.run_query_bind_of_error ha]
    exact .inr ⟨_, s', rfl, .here hst fun h => by simpa using h.answer⟩
  · rw [Workflow.exchanges_query_bind_of_ok ha] at hs ⊢
    rw [Workflow.run_query_bind_of_ok ha]
    obtain ⟨hid, hrest⟩ := agrees_cons.mp hs
    cases hr : w.enough rows with
    | true =>
      have hx : w.IsCarriedOut ⟨st, .ok rows⟩ := ⟨hst, rows, rfl, hr⟩
      rcases henough rows hr hid s' hrest with ⟨b, s'', hrun, hdone, hq⟩ | ⟨e, s'', hrun, hb⟩
      · exact .inl ⟨b, s'', hrun, .cons hx hdone, hq⟩
      · exact .inr ⟨e, s'', hrun, .later hx hb⟩
    | false =>
      obtain ⟨e, he⟩ := hnot rows hr
      rw [he]
      refine .inr ⟨e, s', rfl, .here hst fun h => ?_⟩
      obtain ⟨rows', h, hr'⟩ := h.answer
      cases h
      rw [hr] at hr'
      cases hr'

theorem plain {st : Statement} {f : List Record → Workflow β} (hst : st.deed? = some d)
    (h : ∀ rows, Follows answer ids (k + 1) (f rows) ws Q) :
    Follows answer ids k (Workflow.query st >>= f) (.plain d :: ws) Q :=
  query (w := .plain d) hst (fun rows _ _ => h rows) (by simp [Write.plain])

/-- A statement that must answer an id, and the rest, which uses that id. -/
theorem creating {st : Statement} {made : Option CreatedNode} {f : String → Workflow β}
    (hst : st.deed? = some d) (h : Follows answer ids (k + 1) (f (ids k)) ws Q) :
    Follows answer ids k
      (Workflow.query st >>= fun rows => liftM (returnedId rows operation) >>= f)
      (.creating d made :: ws) Q := by
  refine query (w := .creating d made) hst (fun rows hr hid => ?_) (fun rows hr => ?_)
  · obtain ⟨id, hsome⟩ := Option.isSome_iff_exists.mp hr
    rw [returnedId_of_some hsome, ← hid id hsome]
    exact h
  · rw [returnedId_of_none (by simpa [Write.creating] using hr)]
    exact ⟨_, rfl⟩

theorem last {f : α → Workflow β} (hw : Follows answer ids k w ws Q)
    (hf : ∀ a, Q a → Follows answer ids (k + ws.length) (f a) [] R) :
    Follows answer ids k (w >>= f) ws R := by
  have := hw.bind hf
  rwa [List.append_nil] at this

theorem count {f : Unit → Workflow β} (h : Follows answer ids k (f ()) ws Q) :
    Follows answer ids k (Workflow.count e >>= f) ws Q :=
  fun _ hs => h _ hs

end Follows

-- ---------------------------------------------------------------------------
-- The sequence of an edit
-- ---------------------------------------------------------------------------

def made (ws : List Write) : List CreatedNode := ws.filterMap (·.made)

theorem made_append (ws ws' : List Write) : made (ws ++ ws') = made ws ++ made ws' :=
  List.filterMap_append ..

/-- The writes for some items in turn. Those for an item hang on the place of the first. -/
def inTurn (writes : Nat → α → List Write) (k : Nat) : List α → List Write
  | [] => []
  | a :: as => writes k a ++ inTurn writes (k + (writes k a).length) as

section
variable (ids : Nat → String)

/-- A link to the node that is there; or a new node, then a link to it. -/
def demandWrites (levelId : String) (k : Nat) (d : Demand) : List Write :=
  match d.existing?, d.newNode with
  | some id, _ => [.plain (d.link levelId id)]
  | none, some node =>
    [.creating (d.merge node) (some ⟨ids k, Text.trim node.name, [d.label]⟩),
      .plain (d.link levelId (ids k))]
  | none, none => []

def levelWrites (domainId : String) (k : Nat) (level : Level) : List Write :=
  .creating (.createUnder "Domain" (.str domainId) "HAS_DOMAIN_LEVEL" "Domain_Level"
      [("level", .int level.level.toInt), ("name", .str level.name),
        ("description", .str (level.description.getD "")),
        ("total_points_required", .int level.pointsRequired.toInt)] "elementId") none ::
    inTurn (demandWrites ids (ids k)) (k + 1) level.demands

def findByName (name : String) : Deed Json :=
  .find "Domain" [[(.property "name", .str name)]] [(.elementId, "elementId")] (some 1)

def findById (domainId : String) : Deed Json :=
  .find "Domain" [[(.elementId, .str domainId)]] [(.property "name", "name")] none

def lookupByName (name : String) : Write :=
  ⟨findByName name, fun rows => (elementId? rows).isNone, none⟩

def lookupById (domainId : String) : Write := ⟨findById domainId, fun rows => !rows.isEmpty, none⟩

def removalWrites (removed : List String) : List Write :=
  if removed.isEmpty then []
  else [.plain (.unlink "User" ["HAS_KNOWLEDGE", "HAS_SKILL", "HAS_TRAIT", "ACHIEVED"]
    (.strings removed))]

/-- What comes before the levels: for a new domain the lookup of its name and the domain itself;
for an update the lookup of its id, the removals, the new name and the end of the old levels. -/
def Edit.opening : Edit → List Write
  | .creation c =>
    let name := Text.trim c.domain.name
    [lookupByName name, .creating (.create ["Domain"]
      [("name", .str name), ("description", .str c.domain.description)] "elementId") none]
  | .update u =>
    let id := Text.trim u.domainElementId
    lookupById id :: (removalWrites (u.removedNodeElementIds.filterMap Text.trimmed?) ++
      [.plain (.set "Domain" (.str id)
        [("name", .str (Text.trim u.domain.name)), ("description", .str u.domain.description)]),
        .plain (.deleteUnder "Domain" (.str id) "HAS_DOMAIN_LEVEL" "Domain_Level")])

/-- The domain that the levels belong to: a new one has the id that its creation answered. -/
def Edit.domainId : Edit → String
  | .creation _ => ids 1
  | .update u => Text.trim u.domainElementId

def Edit.writes (e : Edit) : List Write :=
  e.opening ++ inTurn (levelWrites ids (e.domainId ids)) e.opening.length e.levels

end

-- ---------------------------------------------------------------------------
-- The workflows follow the sequence
-- ---------------------------------------------------------------------------

section
variable (answer : (c : Call) → σ → c.Answer × σ) (ids : Nat → String)

theorem follows_writeRequirement {requirements : Requirements} (hr : r ∈ requirements.entries)
    (levelId : String) (k : Nat) :
    Follows answer ids k (writeRequirement levelId r) (demandWrites ids levelId k r.demand)
      fun node => node.toList = made (demandWrites ids levelId k r.demand) := by
  have hlink (nodeId : String) := deed?_link_of_mem levelId nodeId hr
  have hnew : r.demand.newNode = r.newNode := rfl
  unfold writeRequirement demandWrites
  rw [show r.demand.existing? = r.existing? from rfl, hnew]
  rcases r.existing? with _ | id
  · rcases hnode : r.newNode with _ | node
    · exact .pure rfl
    · exact .creating (deed?_mergeNode_of_newNode hnode) (.plain (hlink _) fun _ => .pure rfl)
  · exact .plain (hlink id) fun _ => .pure rfl

theorem follows_writeRequirements {requirements : Requirements} {rs : List Requirement}
    (hrs : ∀ r ∈ rs, r ∈ requirements.entries) (levelId : String) (k : Nat) :
    Follows answer ids k (writeRequirements levelId rs)
      (inTurn (demandWrites ids levelId) k (rs.map Requirement.demand))
      (· = made (inTurn (demandWrites ids levelId) k (rs.map Requirement.demand))) := by
  induction rs generalizing k with
  | nil => exact .pure rfl
  | cons r rs ih =>
    obtain ⟨hr, hrs⟩ := List.forall_mem_cons.mp hrs
    refine (follows_writeRequirement answer ids hr levelId k).bind fun node hnode => ?_
    refine (ih hrs _).last fun nodes hnodes => .pure ?_
    rw [List.map_cons, inTurn, made_append, hnode, hnodes]

theorem follows_writeLevels (domainId : String) (k : Nat) (levels : List Level) :
    Follows answer ids k (writeLevels domainId levels)
      (inTurn (levelWrites ids domainId) k levels)
      (· = made (inTurn (levelWrites ids domainId) k levels)) := by
  induction levels generalizing k with
  | nil => exact .pure rfl
  | cons level levels ih =>
    -- The next level starts behind all that is written for this one.
    have hplace : k + (levelWrites ids domainId k level).length = k + 1 +
        (inTurn (demandWrites ids (ids k)) (k + 1) level.demands).length := by
      simp only [levelWrites, List.length_cons]
      omega
    have hmade : made (levelWrites ids domainId k level) =
        made (inTurn (demandWrites ids (ids k)) (k + 1) level.demands) := rfl
    have hdemands := follows_writeRequirements answer ids
      (fun _ (hr : _ ∈ level.requirements.entries) => hr) (ids k) (k + 1)
    rw [← demands_eq] at hdemands
    refine .creating (deed?_createLevel domainId level) (hdemands.bind fun nodes hnodes => ?_)
    rw [← hplace]
    refine (ih _).last fun rest hrest => .pure ?_
    rw [inTurn, made_append, hmade, hnodes, hrest]

theorem follows_dropProgress (k : Nat) (removed : List String) :
    Follows answer ids k (dropProgress removed) (removalWrites removed) fun _ => True := by
  unfold dropProgress removalWrites
  split
  · exact .pure trivial
  · exact .plain (deed?_deleteProgress removed) fun _ => .pure trivial

structure Edit.Done (e : Edit) (ids : Nat → String) (w : Written) : Prop where
  success : w.success = true
  domain : w.domain = ⟨e.domainId ids, Text.trim e.info.name⟩
  createdNodes : w.createdNodes = made (e.writes ids)

theorem made_opening (e : Edit) : made e.opening = [] := by
  cases e with
  | creation c => rfl
  | update u =>
    unfold Edit.opening removalWrites
    dsimp only
    split <;> rfl

theorem made_writes (ids : Nat → String) (e : Edit) : made (e.writes ids) =
    made (inTurn (levelWrites ids (e.domainId ids)) e.opening.length e.levels) := by
  rw [Edit.writes, made_append, made_opening, List.nil_append]

theorem follows_add {c : Creation} (h : (Edit.creation c).Valid) :
    Follows answer ids 0 (add c) ((Edit.creation c).writes ids) ((Edit.creation c).Done ids) := by
  rw [add_of_valid h]
  refine .query (w := lookupByName _) (deed?_idByName _) (fun rows hfree _ => ?_)
    (fun rows hheld => ?_)
  · rw [if_neg (by simpa [lookupByName] using hfree)]
    refine .creating (deed?_create ..) ?_
    refine (follows_writeLevels answer ids (ids 1) 2 c.levels).last fun nodes hnodes => ?_
    exact .count (.pure ⟨rfl, rfl, hnodes⟩)
  · rw [if_pos (by simpa [lookupByName] using hheld)]
    exact ⟨_, rfl⟩

theorem follows_change {u : Update} (h : (Edit.update u).Valid) :
    Follows answer ids 0 (change u) ((Edit.update u).writes ids) ((Edit.update u).Done ids) := by
  have hplace : (Edit.update u).opening.length = 0 + 1 +
      (removalWrites (u.removedNodeElementIds.filterMap Text.trimmed?)).length + 1 + 1 := by
    simp only [Edit.opening, List.length_append, List.length_cons, List.length_nil]
    omega
  rw [change_of_valid h]
  refine .query (w := lookupById _) (deed?_nameById _) (fun rows hfound _ => ?_)
    (fun rows hmissing => ?_)
  · rw [if_neg (by simpa [lookupById] using hfound)]
    show Follows answer ids (0 + 1) _ (_ ++ _ ++ _) _
    rw [List.append_assoc]
    refine (follows_dropProgress answer ids _ _).bind fun affected _ => ?_
    refine .plain (deed?_rename ..) fun _ => .plain (deed?_deleteLevels _) fun _ => ?_
    rw [← hplace]
    refine (follows_writeLevels answer ids _ _ u.levels).last fun nodes hnodes => ?_
    refine .count (.pure ⟨rfl, rfl, ?_⟩)
    rw [made_writes]
    exact hnodes
  · rw [if_pos (by simpa [lookupById] using hmissing)]
    exact ⟨_, rfl⟩

/-- An edit does the deeds of its sequence in order, as long as they go well; it succeeds exactly if
it gets to the end. -/
theorem follows_edit {e : Edit} (h : e.Valid) :
    Follows answer ids 0 e.workflow (e.writes ids) (e.Done ids) := by
  cases e with
  | creation c => exact follows_add answer ids h
  | update u => exact follows_change answer ids h

end

end Domain

end KnowledgeGraph
