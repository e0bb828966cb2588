import KnowledgeGraph.Node.Writing
import KnowledgeGraph.Person.Profile
import KnowledgeGraph.Proofs.Node.Matching
import Mathlib.Data.List.Forall2

/-!
# Rows as they are shown

What a reader of nodes gets is what the store answered, less the passwords: of every node in the
column of the node and in the list of the nodes around it. All else is left, in its place and in
its order, whatever shape the store gave it.
-/

namespace KnowledgeGraph.Graph

open Json (Members)

-- ---------------------------------------------------------------------------
-- What is taken out
-- ---------------------------------------------------------------------------

/-- The members that are left when every password is taken out. -/
inductive Less : Members → Members → Prop where
  | nil : Less [] []
  | password : Less ms ms' → Less (("password", v) :: ms) ms'
  | other : key ≠ "password" → Less ms ms' → Less ((key, v) :: ms) ((key, v) :: ms')

/-- Two objects with related members, or one value that is no object. -/
inductive OnObject (R : Members → Members → Prop) : Json → Json → Prop where
  | object : R ms ms' → OnObject R (.obj ms) (.obj ms')
  | other : (∀ ms, v ≠ .obj ms) → OnObject R v v

/-- The two names that the properties of a node go by. -/
def NamesProperties (key : String) : Prop := key = "Props" ∨ key = "props"

instance (key : String) : Decidable (NamesProperties key) :=
  inferInstanceAs (Decidable (_ ∨ _))

inductive MemberLess : String × Json → String × Json → Prop where
  | properties : NamesProperties key → OnObject Less v v' → MemberLess (key, v) (key, v')
  | other : ¬ NamesProperties key → MemberLess (key, v) (key, v)

def NodeLess : Json → Json → Prop := OnObject (List.Forall₂ MemberLess)

inductive AffiliatesLess : Json → Json → Prop where
  | list : List.Forall₂ NodeLess nodes nodes' → AffiliatesLess (.arr nodes) (.arr nodes')
  | other : (∀ nodes, v ≠ .arr nodes) → AffiliatesLess v v

def Record.place? (r : Record) (column : String) : Option Nat := r.keys.findIdx? (· == column)

/-- A row as it is shown: two columns less their passwords, and every other value in its place. -/
structure Shown (r r' : Record) : Prop where
  keys : r'.keys = r.keys
  length : r'.values.length = r.values.length
  node : Option.Rel NodeLess (r.get? "node") (r'.get? "node")
  affiliates : Option.Rel AffiliatesLess (r.get? "affiliatedNodes") (r'.get? "affiliatedNodes")
  other : ∀ i, r.place? "node" ≠ some i → r.place? "affiliatedNodes" ≠ some i →
    r'.values[i]? = r.values[i]?

def HidesPassword (node : Json) : Prop :=
  ∀ ms, node = .obj ms → ∀ key props, NamesProperties key → (key, .obj props) ∈ ms →
    "password" ∉ props.map (·.1)

structure Record.HidesPasswords (r : Record) : Prop where
  node : ∀ node, r.get? "node" = some node → HidesPassword node
  affiliates : ∀ nodes, r.get? "affiliatedNodes" = some (.arr nodes) →
    ∀ node ∈ nodes, HidesPassword node

-- ---------------------------------------------------------------------------
-- Nodes
-- ---------------------------------------------------------------------------

theorem exists_of_forall₂ {R : α → β → Prop} {xs : List α} {ys : List β}
    (h : List.Forall₂ R xs ys) (hy : y ∈ ys) : ∃ x ∈ xs, R x y := by
  induction h with
  | nil => cases hy
  | @cons x y' xs ys hxy _ ih =>
    rcases List.mem_cons.mp hy with rfl | hy
    · exact ⟨x, List.mem_cons_self, hxy⟩
    · obtain ⟨x', hx', hR⟩ := ih hy
      exact ⟨x', List.mem_cons_of_mem x hx', hR⟩

theorem Less.notMem (h : Less ms ms') : "password" ∉ ms'.map (·.1) := by
  induction h with
  | nil => exact List.not_mem_nil
  | password _ ih => exact ih
  | other hkey _ ih =>
    rw [List.map_cons, List.mem_cons, not_or]
    exact ⟨Ne.symm hkey, ih⟩

theorem NodeLess.hidesPassword (h : NodeLess v v') : HidesPassword v' := by
  rintro members rfl key props hkey hmem
  cases h with
  | other hno => exact absurd rfl (hno members)
  | object hms =>
    obtain ⟨m, -, hm⟩ := exists_of_forall₂ hms hmem
    cases hm with
    | other hno => exact absurd hkey hno
    | properties _ hprops =>
      cases hprops with
      | object hless => exact hless.notMem
      | other hno => exact absurd rfl (hno props)

theorem less_filter (ms : Members) : Less ms (ms.filter fun m => !isHidden m.1) := by
  induction ms with
  | nil => exact .nil
  | cons m ms ih =>
    obtain ⟨key, v⟩ := m
    by_cases hkey : key = "password"
    · subst hkey
      exact .password ih
    · rw [List.filter_cons_of_pos (by simp [isHidden, hkey])]
      exact .other hkey ih

theorem onObject_redactProperties (v : Json) : OnObject Less v (redactProperties v) := by
  cases v with
  | obj props => exact .object (less_filter props)
  | _ => exact .other (by rintro _ ⟨⟩)

theorem nodeLess_redactNode (v : Json) : NodeLess v (redactNode v) := by
  cases v with
  | obj ms =>
    refine .object (List.forall₂_map_right_iff.mpr (List.forall₂_same.mpr fun m _ => ?_))
    obtain ⟨key, v⟩ := m
    dsimp only
    split
    · next hkey => exact .properties hkey (onObject_redactProperties v)
    · next hkey => exact .other hkey
  | _ => exact .other (by rintro _ ⟨⟩)

theorem affiliatesLess_redactAffiliates (v : Json) : AffiliatesLess v (redactAffiliates v) := by
  cases v with
  | arr nodes =>
    exact .list (List.forall₂_map_right_iff.mpr (List.forall₂_same.mpr fun node _ =>
      nodeLess_redactNode node))
  | _ => exact .other (by rintro _ ⟨⟩)

theorem redactProperties_of_notMem (h : "password" ∉ props.map (·.1)) :
    redactProperties (.obj props) = .obj props := by
  refine congrArg Json.obj (List.filter_eq_self.mpr fun m hm => ?_)
  have hne : m.1 ≠ "password" := fun he => h (he ▸ List.mem_map_of_mem hm)
  simp [isHidden, hne]

theorem redactNode_of_hidesPassword (h : HidesPassword v) : redactNode v = v := by
  cases v with
  | obj ms =>
    refine congrArg Json.obj ((List.map_congr_left fun m hm => ?_).trans (List.map_id ms))
    obtain ⟨key, v⟩ := m
    by_cases hkey : NamesProperties key
    · refine (if_pos hkey).trans (congrArg (Prod.mk key) ?_)
      cases v with
      | obj props => exact redactProperties_of_notMem (h ms rfl key props hkey hm)
      | _ => rfl
    · exact if_neg hkey
  | _ => rfl

-- ---------------------------------------------------------------------------
-- Records
-- ---------------------------------------------------------------------------

namespace Record
variable {r : Record} {column other : String} {f : Json → Json}

theorem get?_eq : r.get? column = (r.place? column).bind (r.values[·]?) := rfl

@[simp] theorem keys_update (r : Record) (column : String) (f : Json → Json) :
    (r.update column f).keys = r.keys := by
  unfold update
  split <;> rfl

@[simp] theorem place?_update (r : Record) (column other : String) (f : Json → Json) :
    (r.update column f).place? other = r.place? other := by
  rw [place?, keys_update, place?]

@[simp] theorem length_values_update (r : Record) (column : String) (f : Json → Json) :
    (r.update column f).values.length = r.values.length := by
  unfold update
  split <;> simp

theorem getElem?_values_update (r : Record) (column : String) (f : Json → Json) (i : Nat) :
    (r.update column f).values[i]? =
      if r.place? column = some i then r.values[i]?.map f else r.values[i]? := by
  unfold update place?
  split
  · next j hj =>
    rw [List.getElem?_modify, hj]
    by_cases hji : j = i <;> simp [hji]
  · next hnone => simp [hnone]

theorem get?_update_self : (r.update column f).get? column = (r.get? column).map f := by
  rw [get?_eq, get?_eq, place?_update]
  cases h : r.place? column with
  | none => rfl
  | some i => simp [getElem?_values_update, h]

theorem eq_of_place? (h : r.place? column = some i) (h' : r.place? other = some i) :
    column = other := by
  obtain ⟨hi, hcolumn, -⟩ := List.findIdx?_eq_some_iff_getElem.mp h
  obtain ⟨_, hother, -⟩ := List.findIdx?_eq_some_iff_getElem.mp h'
  exact (beq_iff_eq.mp hcolumn).symm.trans (beq_iff_eq.mp hother)

theorem get?_update_of_ne (hne : column ≠ other) :
    (r.update column f).get? other = r.get? other := by
  rw [get?_eq, get?_eq, place?_update]
  cases h : r.place? other with
  | none => rfl
  | some i =>
    have hother : r.place? column ≠ some i := fun h' => hne (eq_of_place? h' h)
    simp [getElem?_values_update, hother]

theorem update_eq_self (h : ∀ v, r.get? column = some v → f v = v) : r.update column f = r := by
  obtain ⟨keys, values⟩ := r
  unfold update
  split
  · next i hi =>
    refine congrArg (Record.mk keys) (List.ext_getElem? fun j => ?_)
    rw [List.getElem?_modify]
    cases hv : values[j]? with
    | none => simp
    | some v =>
      by_cases hij : i = j
      · subst hij
        have hget : (Record.mk keys values).get? column = some v := by
          simp [get?, hi, hv]
        simp [h v hget]
      · simp [hij]
  · rfl

theorem get?_redactRecord_node (r : Record) :
    (redactRecord r).get? "node" = (r.get? "node").map redactNode := by
  rw [redactRecord, get?_update_of_ne (by decide), get?_update_self]

theorem get?_redactRecord_affiliates (r : Record) :
    (redactRecord r).get? "affiliatedNodes" =
      (r.get? "affiliatedNodes").map redactAffiliates := by
  rw [redactRecord, get?_update_self, get?_update_of_ne (by decide)]

end Record

theorem optionRel_map {R : Json → Json → Prop} {f : Json → Json} (h : ∀ v, R v (f v)) :
    ∀ v? : Option Json, Option.Rel R v? (v?.map f)
  | none => .none
  | some v => .some (h v)

theorem shown_redactRecord (r : Record) : Shown r (redactRecord r) where
  keys := by simp [redactRecord]
  length := by simp [redactRecord]
  node := by
    rw [Record.get?_redactRecord_node]
    exact optionRel_map nodeLess_redactNode _
  affiliates := by
    rw [Record.get?_redactRecord_affiliates]
    exact optionRel_map affiliatesLess_redactAffiliates _
  other i hnode haffiliates := by
    rw [redactRecord, Record.getElem?_values_update, Record.place?_update, if_neg haffiliates,
      Record.getElem?_values_update, if_neg hnode]

theorem exists_of_optionRel {R : Json → Json → Prop} (h : Option.Rel R v? v'?)
    (hv : v'? = some v') : ∃ v, R v v' := by
  subst hv
  cases h with
  | some hR => exact ⟨_, hR⟩

theorem Shown.hidesPasswords (h : Shown r r') : r'.HidesPasswords where
  node node hget := by
    obtain ⟨v, hless⟩ := exists_of_optionRel h.node hget
    exact hless.hidesPassword
  affiliates nodes hget node hmem := by
    obtain ⟨v, hless⟩ := exists_of_optionRel h.affiliates hget
    cases hless with
    | other hno => exact absurd rfl (hno nodes)
    | list hnodes =>
      obtain ⟨_, -, hnode⟩ := exists_of_forall₂ hnodes hmem
      exact hnode.hidesPassword

theorem redactRecord_of_hidesPasswords (h : r.HidesPasswords) : redactRecord r = r := by
  have hnode : r.update "node" redactNode = r :=
    Record.update_eq_self fun v hv => redactNode_of_hidesPassword (h.node v hv)
  rw [redactRecord, hnode]
  refine Record.update_eq_self fun v hv => ?_
  cases v with
  | arr nodes =>
    exact congrArg Json.arr ((List.map_congr_left fun node hmem =>
      redactNode_of_hidesPassword (h.affiliates nodes hv node hmem)).trans (List.map_id nodes))
  | _ => rfl

-- ---------------------------------------------------------------------------
-- Checks
-- ---------------------------------------------------------------------------

/-- A check passes exactly if a request is valid, and calls it invalid otherwise. -/
inductive Decides (valid : Prop) : Except Error α → Prop where
  | passed : valid → Decides valid (.ok a)
  | refused : ¬ valid → Decides valid (.error (.invalidInput message))

theorem Decides.of_iff {r : Except Error α} (hok : (∃ a, r = .ok a) ↔ valid)
    (herror : ∀ e, r = .error e → Node.IsInvalid e) : Decides valid r := by
  cases r with
  | ok a => exact .passed (hok.mp ⟨a, rfl⟩)
  | error e =>
    obtain ⟨message, rfl⟩ := herror e rfl
    exact .refused fun hvalid => by simpa using hok.mpr hvalid

theorem Decides.bind {r : Except Error α} {f : α → Except Error β} (hr : Decides valid r)
    (hf : ∀ a, Decides valid' (f a)) : Decides (valid ∧ valid') (r >>= f) := by
  cases hr with
  | @passed a hvalid =>
    rw [and_iff_right hvalid]
    exact hf a
  | refused hnot => exact .refused fun h => hnot h.1

-- ---------------------------------------------------------------------------
-- Readings
-- ---------------------------------------------------------------------------

/-- What becomes of a reading, given what it exchanged with the store: a request that is not valid is
refused before that, and so ends one whose term is not embedded; any other fails with the store, ends
because it needs rows and there are none, or shows the rows. -/
inductive Answered (valid embeds needed : Prop) (Shows : List Record → β → Prop) :
    Except Error β → List Exchange → Prop where
  | refused : ¬ valid →
      Answered valid embeds needed Shows (.error (.invalidInput message)) []
  | notEmbedded (failure : Failure) : valid → embeds →
      Answered valid embeds needed Shows (.error failure.toError) []
  | failed (failure : Failure) : valid →
      Answered valid embeds needed Shows (.error failure.toError) [⟨st, .error failure⟩]
  | missing : valid → needed →
      Answered valid embeds needed Shows (.error (.notFound message)) [⟨st, .ok []⟩]
  | answered : valid → (needed → rows ≠ []) → Shows rows shown →
      Answered valid embeds needed Shows (.ok shown) [⟨st, .ok rows⟩]

section
variable {valid embeds needed : Prop} {Shows : List Record → β → Prop}
  {answer : (c : Call) → σ → c.Answer × σ}

theorem answered_check {r : Except Error α} {w : α → Workflow β} (hr : Decides passes r)
    (hvalid : valid → passes)
    (h : passes → ∀ a s, Answered valid embeds needed Shows ((w a).run answer s).1
      ((w a).exchanges answer s)) (s : σ) :
    Answered valid embeds needed Shows ((liftM r >>= w).run answer s).1
      ((liftM r >>= w).exchanges answer s) := by
  cases hr with
  | passed hpasses => exact h hpasses _ s
  | refused hnot => exact .refused fun hv => hnot (hvalid hv)

theorem answered_embed {w : List Binary64 → Workflow β} (hvalid : valid)
    (h : ∀ embedding s, Answered valid True needed Shows ((w embedding).run answer s).1
      ((w embedding).exchanges answer s)) (s : σ) :
    Answered valid True needed Shows ((Workflow.embed text >>= w).run answer s).1
      ((Workflow.embed text >>= w).exchanges answer s) := by
  show Answered valid True needed Shows
    (((Workflow.orFail pure (answer (.embed text) s).1).bind w).run answer
      (answer (.embed text) s).2).1
    (((Workflow.orFail pure (answer (.embed text) s).1).bind w).exchanges answer
      (answer (.embed text) s).2)
  rcases (answer (.embed text) s).1 with failure | embedding
  · exact .notEmbedded failure hvalid trivial
  · exact h embedding _

variable {f : List Record → β}

theorem answered_query (hf : ∀ rows, Shows rows (f rows)) (hvalid : valid) (st : Statement)
    (s : σ) :
    Answered valid embeds False Shows
      ((Workflow.query st >>= fun rows => pure (f rows)).run answer s).1
      ((Workflow.query st >>= fun rows => pure (f rows)).exchanges answer s) := by
  rcases h : answer (.query st) s with ⟨failure | rows, s'⟩
  · rw [Workflow.run_query_bind_of_error h, Workflow.exchanges_query_bind_of_error h]
    exact .failed failure hvalid
  · rw [Workflow.run_query_bind_of_ok h, Workflow.exchanges_query_bind_of_ok h]
    exact .answered hvalid False.elim (hf rows)

theorem answered_query_required (hf : ∀ rows, Shows rows (f rows)) (hvalid : valid)
    (st : Statement) (what : String) (s : σ) :
    Answered valid embeds True Shows
      ((Workflow.query st >>= fun rows =>
        liftM (requireRows rows what) >>= fun rows => pure (f rows)).run answer s).1
      ((Workflow.query st >>= fun rows =>
        liftM (requireRows rows what) >>= fun rows => pure (f rows)).exchanges answer s) := by
  rcases h : answer (.query st) s with ⟨failure | rows, s'⟩
  · rw [Workflow.run_query_bind_of_error h, Workflow.exchanges_query_bind_of_error h]
    exact .failed failure hvalid
  · rw [Workflow.run_query_bind_of_ok h, Workflow.exchanges_query_bind_of_ok h]
    cases rows with
    | nil => exact .missing hvalid trivial
    | cons r rows =>
      exact .answered hvalid (fun _ => List.cons_ne_nil r rows) (hf (r :: rows))

end

/-- The rows that are shown for those that were answered: all of them and in their order, with
nothing left to take out. -/
structure ShowsRecords (rows shown : List Record) : Prop where
  each : List.Forall₂ Shown rows shown
  hides : ∀ r ∈ shown, r.HidesPasswords
  again : shown.map redactRecord = shown

structure ShowsNodes (rows : List Record) (found : Node.SearchResult) : Prop where
  each : List.Forall₂ NodeLess (rows.filterMap (·.get? "node")) found.nodes
  hides : ∀ node ∈ found.nodes, HidesPassword node
  again : found.nodes.map redactNode = found.nodes

theorem showsRecords (rows : List Record) : ShowsRecords rows (rows.map redactRecord) := by
  have hides : ∀ r ∈ rows.map redactRecord, r.HidesPasswords := by
    intro r hr
    obtain ⟨row, -, rfl⟩ := List.mem_map.mp hr
    exact (shown_redactRecord row).hidesPasswords
  exact {
    each := List.forall₂_map_right_iff.mpr (List.forall₂_same.mpr fun r _ => shown_redactRecord r)
    hides := hides
    again := (List.map_congr_left fun r hr => redactRecord_of_hidesPasswords (hides r hr)).trans
      (List.map_id _) }

theorem showsNodes (rows : List Record) :
    ShowsNodes rows ⟨rows.filterMap fun r => (r.get? "node").map redactNode⟩ := by
  rw [← List.map_filterMap]
  have hides : ∀ node ∈ (rows.filterMap (·.get? "node")).map redactNode, HidesPassword node := by
    intro node hnode
    obtain ⟨v, -, rfl⟩ := List.mem_map.mp hnode
    exact (nodeLess_redactNode v).hidesPassword
  exact {
    each := List.forall₂_map_right_iff.mpr
      (List.forall₂_same.mpr fun node _ => nodeLess_redactNode node)
    hides := hides
    again := (List.map_congr_left fun node hnode =>
      redactNode_of_hidesPassword (hides node hnode)).trans (List.map_id _) }

inductive Reading where
  | nodes (q : Node.Query)
  | nearest (q : Node.TermQuery)
  | change (u : Node.Update)
  | profile (username : String)

def Reading.workflow (settings : Settings) : Reading → Workflow (List Record)
  | .nodes q => Node.find settings q
  | .nearest q => Node.findNearest settings q
  | .change u => Node.change u
  | .profile username => Person.readProfile username

def InReach (settings : Settings) (depth : Option UInt32) : Prop :=
  ∃ steps, steps = (depth.map UInt32.toNat).getD 1 ∧ 1 ≤ steps ∧ steps ≤ settings.maxDepth

structure IsChange (u : Node.Update) : Prop where
  target : Text.trim u.targetId ≠ ""
  some : u.labels.getD [] ≠ [] ∨ u.properties.getD [] ≠ []
  labels : ∀ label ∈ u.labels.getD [], IsName label

def Reading.IsValid (settings : Settings) : Reading → Prop
  | .nodes q => ∃ labels entries depth, q.Asks settings labels entries depth
  | .nearest q => Text.trim (q.searchTerm.getD "") ≠ "" ∧ InReach settings q.depth
  | .change u => IsChange u
  | .profile username => Text.trim username ≠ ""

def Reading.Embeds : Reading → Prop
  | .nearest _ => True
  | .nodes _ | .change _ | .profile _ => False

def Reading.NeedsRows : Reading → Prop
  | .nodes _ | .nearest _ => False
  | .change _ | .profile _ => True

theorem decides_requireText (value field : String) :
    Decides (Text.trim value ≠ "") (requireText value field) := by
  rw [requireText]
  cases h : Text.trimmed? value with
  | some text =>
    obtain ⟨rfl, hne⟩ := Text.trimmed?_eq_some_iff.mp h
    exact .passed hne
  | none => exact .refused fun hne => by simp [Text.trimmed?_eq_some_iff.mpr ⟨rfl, hne⟩] at h

theorem decides_resolveDepth (settings : Settings) (depth : Option UInt32) :
    Decides (InReach settings depth) (Node.resolveDepth settings depth) := by
  refine .of_iff (exists_congr fun _ => Node.resolveDepth_eq_ok_iff) fun e h => ?_
  unfold Node.resolveDepth at h
  dsimp only at h
  split at h
  · cases h
  · cases h; exact ⟨_, rfl⟩

theorem decides_statement (settings : Settings) (q : Node.Query) :
    Decides (∃ labels entries depth, q.Asks settings labels entries depth)
      (q.statement settings) := by
  refine .of_iff ⟨fun ⟨st, hst⟩ => ?_, fun ⟨labels, entries, depth, hasks⟩ => ?_⟩
    fun e => Node.isInvalid_of_statement
  · obtain ⟨labels, entries, depth, hasks, -⟩ := Node.statement_eq_ok_iff.mp hst
    exact ⟨labels, entries, depth, hasks⟩
  · obtain ⟨st, -, hst⟩ := Node.exists_statement_of_asks hasks
    exact ⟨st, hst⟩

theorem decides_labelExpression (labels : List String) :
    Decides (∀ label ∈ labels, IsName label) (labelExpression labels) :=
  .of_iff exists_labelExpression_iff fun _ => Node.isInvalid_of_labelExpression

theorem decides_change (u : Node.Update) : Decides (IsChange u) u.statement := by
  have hvalid : IsChange u ↔ Text.trim u.targetId ≠ "" ∧
      (u.labels.getD [] ≠ [] ∨ u.properties.getD [] ≠ []) ∧
        ∀ label ∈ u.labels.getD [], IsName label :=
    ⟨fun h => ⟨h.target, h.some, h.labels⟩, fun ⟨htarget, hsome, hlabels⟩ =>
      ⟨htarget, hsome, hlabels⟩⟩
  have hnothing : ((u.labels.getD []).isEmpty &&
      (u.properties.filter (!·.isEmpty)).isNone) = true ↔
        ¬ (u.labels.getD [] ≠ [] ∨ u.properties.getD [] ≠ []) := by
    cases u.properties <;> simp
  rw [hvalid]
  refine .bind (decides_requireText u.targetId "targetId") fun targetId => ?_
  dsimp only
  split
  · next h => exact .refused fun hchange => hnothing.mp h hchange.1
  · next h =>
    rw [and_iff_right (not_not.mp (mt hnothing.mpr h)), ← and_true (∀ label ∈ _, IsName label)]
    exact .bind (decides_labelExpression _) fun _ => .passed trivial

theorem decides_search (q : Node.SearchQuery) :
    Decides (Text.trim (q.query.getD "") ≠ "") q.statement := by
  rw [← and_true (Text.trim _ ≠ "")]
  exact .bind (decides_requireText _ "query") fun _ => .passed trivial

/-- A reading shows the rows that the store answered, less the passwords in them and nothing else,
and so does a search for nodes. -/
theorem readings_hide_passwords (settings : Settings) (answer : (c : Call) → σ → c.Answer × σ)
    (s : σ) :
    (∀ op : Reading, Answered (op.IsValid settings) op.Embeds op.NeedsRows ShowsRecords
      ((op.workflow settings).run answer s).1 ((op.workflow settings).exchanges answer s)) ∧
    ∀ q : Node.SearchQuery, Answered (Text.trim (q.query.getD "") ≠ "") False False ShowsNodes
      ((Node.findByName q).run answer s).1 ((Node.findByName q).exchanges answer s) := by
  constructor
  · intro op
    cases op with
    | nodes q =>
      exact answered_check (decides_statement settings q) id
        (fun hvalid st => answered_query showsRecords hvalid st) s
    | nearest q =>
      exact answered_check (decides_requireText _ _) And.left (fun hterm _ =>
        answered_check (decides_resolveDepth settings q.depth) And.right fun hdepth _ =>
          answered_embed ⟨hterm, hdepth⟩ fun _ =>
            answered_query showsRecords ⟨hterm, hdepth⟩ _) s
    | change u =>
      exact answered_check (decides_change u) id
        (fun hvalid st => answered_query_required showsRecords hvalid st "node") s
    | profile username =>
      exact answered_check (decides_requireText username "username") id
        (fun hvalid _ => answered_query_required showsRecords hvalid _ "user") s
  · intro q
    exact answered_check (decides_search q) id
      (fun hvalid st => answered_query showsNodes hvalid st) s

def adaWithBob : Record :=
  ⟨["node", "affiliatedNodes"],
    [.obj [("Id", .nat 1), ("Props", .obj [("name", .str "Ada"), ("password", .str "a")])],
      .arr [.obj [("props", .obj [("password", .str "b"), ("username", .str "bob")])]]]⟩

example :
    ((Person.readProfile " ada ").run (storeAlone fun _ _ => ([adaWithBob], ())) ()).1 =
      .ok [⟨["node", "affiliatedNodes"],
        [.obj [("Id", .nat 1), ("Props", .obj [("name", .str "Ada")])],
          .arr [.obj [("props", .obj [("username", .str "bob")])]]]⟩] := rfl

end KnowledgeGraph.Graph
