import Mathlib.Data.List.Nodup
import KnowledgeGraph.Node.Reading
import KnowledgeGraph.Proofs.Graph.Binding
import KnowledgeGraph.Proofs.Workflow.Turns

/-!
# Queries are read back

The statement that a query for nodes becomes says what the query says, and nothing else. A reader
that knows nothing of how the statement was made finds in it the labels of the query, one equality
for each entry of its properties, with the text that is bound to the parameter, and how far
relationships are followed. Any other query is refused before anything is asked.
-/

namespace KnowledgeGraph.Node

open KnowledgeGraph.Graph

-- ---------------------------------------------------------------------------
-- The reader
-- ---------------------------------------------------------------------------

/-- The labels of a list with commas: what stands between the commas, trimmed, where anything is
left of it. -/
def NamesLabels : Option String → List String → Prop
  | none, labels => labels = []
  | some raw, labels => ∃ parts, parts ≠ [] ∧ (∀ part ∈ parts, ',' ∉ part.toList) ∧
      ",".intercalate parts = raw ∧ labels = (parts.map Text.trim).filter (· ≠ "")

def textMembers (entries : List (String × String)) : Json.Members :=
  entries.map fun (key, text) => (key, .str text)

inductive HoldsEntries : Option String → List (String × String) → Prop where
  | absent : HoldsEntries none []
  | blank : Text.isBlankText raw = true → HoldsEntries (some raw) []
  | object : Text.isBlankText raw = false →
      (Wire.Document.ofText raw).json = .ok (.obj (textMembers entries)) →
      HoldsEntries (some raw) entries

structure Query.Asks (settings : Settings) (q : Query) (labels : List String)
    (entries : List (String × String)) (depth : Nat) : Prop where
  listed : NamesLabels q.labels labels
  held : HoldsEntries q.properties entries
  steps : depth = (q.depth.map UInt32.toNat).getD 1
  inRange : 1 ≤ depth ∧ depth ≤ settings.maxDepth
  names : ∀ label ∈ labels, IsName label
  keys : ∀ entry ∈ entries, Text.trim entry.1 = elementIdKey ∨ IsName entry.1

-- ---------------------------------------------------------------------------
-- One condition
-- ---------------------------------------------------------------------------

theorem condition_eq_ok_iff : condition index key = .ok text ↔
    (Text.trim key = elementIdKey ∧ text = "elementId(node) = $" ++ filterParam index) ∨
    (Text.trim key ≠ elementIdKey ∧ ∃ quoted, quote (Text.trim key) = .ok quoted ∧
      text = "node." ++ quoted ++ " = $" ++ filterParam index) := by
  simp only [condition]
  split
  · next h =>
    rw [pure_eq_ok_iff]
    simp [h, eq_comm]
  · next h =>
    simp only [bind_eq_ok_iff, pure_eq_ok_iff]
    simp [h, eq_comm]

def bindings (start : Nat) (filters : Json.Members) : List (String × Json) :=
  (filters.zipIdx start).map fun ((_, v), index) => (filterParam index, v)

theorem namesLabels_iff : NamesLabels raw labels ↔ labels = (raw.map splitLabels).getD [] := by
  cases raw with
  | none => exact Iff.rfl
  | some raw => exact Text.eq_listed_iff.symm

theorem isText_iff {v : Json} : isText v = true ↔ ∃ text, v = .str text := by
  cases v <;> simp [isText]

theorem exists_textMembers_iff {ms : Json.Members} :
    (∃ entries, ms = textMembers entries) ↔ ∀ m ∈ ms, isText m.2 = true := by
  constructor
  · rintro ⟨entries, rfl⟩ m hm
    obtain ⟨entry, -, rfl⟩ := List.mem_map.mp hm
    rfl
  · intro h
    induction ms with
    | nil => exact ⟨[], rfl⟩
    | cons m ms ih =>
      obtain ⟨hm, hms⟩ := List.forall_mem_cons.mp h
      obtain ⟨text, htext⟩ := isText_iff.mp hm
      obtain ⟨entries, rfl⟩ := ih hms
      exact ⟨(m.1, text) :: entries, by simp [textMembers, ← htext]⟩

theorem parseFilters_eq_ok_iff : parseFilters raw = .ok ms ↔
    (Wire.Document.ofText raw).json = .ok (.obj ms) ∧ ∃ entries, ms = textMembers entries := by
  rw [parseFilters, exists_textMembers_iff]
  split
  · next h => simp [h]
  · next members h =>
    rw [h]
    split
    · next hfind =>
      have hm := List.mem_of_find?_eq_some hfind
      have hnot := List.find?_some hfind
      simp only [reduceCtorEq, Except.ok.injEq, Json.obj.injEq, false_iff, not_and, not_forall]
      rintro rfl
      exact ⟨_, hm, by simpa using hnot⟩
    · next hfind =>
      simp only [List.find?_eq_none, Bool.not_eq_true', Bool.not_eq_false] at hfind
      simp only [Except.ok.injEq, Json.obj.injEq]
      constructor
      · rintro rfl
        exact ⟨rfl, hfind⟩
      · exact And.left
  · next v hv h =>
    simp only [h, reduceCtorEq, Except.ok.injEq, false_iff, not_and]
    rintro rfl
    exact absurd rfl (hv _)

theorem resolveDepth_eq_ok_iff : resolveDepth settings asked = .ok depth ↔
    depth = (asked.map UInt32.toNat).getD 1 ∧ 1 ≤ depth ∧ depth ≤ settings.maxDepth := by
  unfold resolveDepth defaultDepth
  dsimp only
  split
  · next h =>
    rw [Except.ok.injEq, eq_comm]
    exact ⟨fun he => ⟨he, he ▸ h⟩, And.left⟩
  · next h =>
    simp only [reduceCtorEq, false_iff]
    rintro ⟨rfl, hd⟩
    exact h hd

theorem exists_condition_iff (index : Nat) : (∃ text, condition index key = .ok text) ↔
    Text.trim key = elementIdKey ∨ IsName key := by
  rw [← isName_trim_iff, ← exists_quote_iff]
  simp only [condition_eq_ok_iff]
  constructor
  · rintro ⟨text, ⟨hkey, -⟩ | ⟨-, quoted, hq, -⟩⟩
    · exact .inl hkey
    · exact .inr ⟨quoted, hq⟩
  · rintro hkey
    by_cases he : Text.trim key = elementIdKey
    · exact ⟨_, .inl ⟨he, rfl⟩⟩
    · obtain ⟨quoted, hq⟩ := hkey.resolve_left he
      exact ⟨_, .inr ⟨he, quoted, hq, rfl⟩⟩

theorem exists_conditions_iff (start : Nat) : (∃ conds, conditions start keys = .ok conds) ↔
    ∀ key ∈ keys, Text.trim key = elementIdKey ∨ IsName key := by
  induction keys generalizing start with
  | nil => exact ⟨fun _ => List.forall_mem_nil _, fun _ => ⟨[], rfl⟩⟩
  | cons key keys ih =>
    rw [List.forall_mem_cons, ← exists_condition_iff start, ← ih (start + 1)]
    simp only [conditions, bind_eq_ok_iff, pure_eq_ok_iff]
    constructor
    · rintro ⟨_, first, hf, rest, hr, -⟩
      exact ⟨⟨first, hf⟩, rest, hr⟩
    · rintro ⟨⟨first, hf⟩, rest, hr⟩
      exact ⟨_, first, hf, rest, hr, rfl⟩

def filtersOf : Option String → Except Error Json.Members
  | some raw => if Text.isBlankText raw then pure [] else parseFilters raw
  | none => pure []

theorem statement_eq_bind (settings : Settings) (q : Query) :
    q.statement settings = filtersOf q.properties >>= fun filters =>
      resolveDepth settings q.depth >>= fun depth =>
        matching ((q.labels.map splitLabels).getD []) filters depth := by
  cases hq : q.properties with
  | none => simp only [Query.statement, hq, filtersOf]
  | some raw =>
    simp only [Query.statement, hq, filtersOf]
    split <;> rfl

theorem filtersOf_eq_ok_iff : filtersOf raw = .ok ms ↔
    ∃ entries, ms = textMembers entries ∧ HoldsEntries raw entries := by
  constructor
  · intro h
    unfold filtersOf at h
    split at h
    · split at h
      · next hblank =>
        cases pure_eq_ok_iff.mp h
        exact ⟨[], rfl, .blank hblank⟩
      · next hblank =>
        obtain ⟨hjson, entries, rfl⟩ := parseFilters_eq_ok_iff.mp h
        exact ⟨entries, rfl, .object (by simpa using hblank) hjson⟩
    · cases pure_eq_ok_iff.mp h
      exact ⟨[], rfl, .absent⟩
  · rintro ⟨entries, rfl, h⟩
    cases h with
    | absent => rfl
    | blank hblank => rw [filtersOf, if_pos hblank]; rfl
    | object hblank hjson =>
      rw [filtersOf, if_neg (by simp [hblank])]
      exact parseFilters_eq_ok_iff.mpr ⟨hjson, entries, rfl⟩

theorem statement_eq_ok_iff {q : Query} : q.statement settings = .ok st ↔
    ∃ labels entries depth, q.Asks settings labels entries depth ∧
      matching labels (textMembers entries) depth = .ok st := by
  have hnames {labels : List String} {entries : List (String × String)} {depth : Nat}
      (h : matching labels (textMembers entries) depth = .ok st) :
      (∀ label ∈ labels, IsName label) ∧
        ∀ entry ∈ entries, Text.trim entry.1 = elementIdKey ∨ IsName entry.1 := by
    simp only [matching, bind_eq_ok_iff] at h
    obtain ⟨conds, hconds, expression, hlabels, -⟩ := h
    refine ⟨exists_labelExpression_iff.mp ⟨_, hlabels⟩, fun entry hentry => ?_⟩
    refine (exists_conditions_iff 0).mp ⟨_, hconds⟩ entry.1 ?_
    simpa [textMembers] using ⟨entry.2, hentry⟩
  simp only [statement_eq_bind, bind_eq_ok_iff, filtersOf_eq_ok_iff, resolveDepth_eq_ok_iff]
  constructor
  · rintro ⟨_, ⟨entries, rfl, hentries⟩, depth, ⟨hsteps, hrange⟩, h⟩
    exact ⟨_, entries, depth,
      ⟨namesLabels_iff.mpr rfl, hentries, hsteps, hrange, (hnames h).1, (hnames h).2⟩, h⟩
  · rintro ⟨labels, entries, depth, hasks, h⟩
    obtain rfl := namesLabels_iff.mp hasks.listed
    exact ⟨_, ⟨entries, rfl, hasks.held⟩, depth, ⟨hasks.steps, hasks.inRange⟩, h⟩

/-- A query that asks for something becomes a statement. -/
theorem exists_statement_of_asks {q : Query} (h : q.Asks settings labels entries depth) :
    ∃ st, matching labels (textMembers entries) depth = .ok st ∧
      q.statement settings = .ok st := by
  obtain ⟨expression, hlabels⟩ := exists_labelExpression_iff.mpr h.names
  have hkeys : ∀ key ∈ (textMembers entries).map (·.1),
      Text.trim key = elementIdKey ∨ IsName key := by
    intro key hkey
    simp only [textMembers, List.map_map, List.mem_map] at hkey
    obtain ⟨entry, hentry, rfl⟩ := hkey
    exact h.keys entry hentry
  obtain ⟨conds, hconds⟩ := (exists_conditions_iff 0).mpr hkeys
  obtain ⟨st, hst⟩ : ∃ st, matching labels (textMembers entries) depth = .ok st := by
    simp only [matching, bind_eq_ok_iff]
    exact ⟨_, conds, hconds, expression, hlabels, rfl⟩
  exact ⟨st, hst, statement_eq_ok_iff.mpr ⟨labels, entries, depth, h, hst⟩⟩

-- ---------------------------------------------------------------------------
-- Refused queries
-- ---------------------------------------------------------------------------

def IsInvalid (e : Error) : Prop := ∃ message, e = .invalidInput message

theorem isInvalid_of_quote (h : quote name = .error e) : IsInvalid e := by
  unfold quote at h
  dsimp only at h
  split at h
  · cases h; exact ⟨_, rfl⟩
  · split at h
    · cases h; exact ⟨_, rfl⟩
    · split at h
      · cases h; exact ⟨_, rfl⟩
      · cases h

theorem isInvalid_of_labelExpression (h : labelExpression labels = .error e) : IsInvalid e := by
  induction labels with
  | nil => cases h
  | cons label labels ih =>
    rw [labelExpression, bind_eq_error_iff] at h
    rcases h with h | ⟨quoted, -, h⟩
    · exact isInvalid_of_quote h
    · rcases bind_eq_error_iff.mp h with h | ⟨rest, -, h⟩
      · exact ih h
      · cases h

theorem isInvalid_of_conditions (h : conditions start keys = .error e) : IsInvalid e := by
  induction keys generalizing start with
  | nil => cases h
  | cons key keys ih =>
    rw [conditions, bind_eq_error_iff] at h
    rcases h with h | ⟨first, -, h⟩
    · unfold condition at h
      dsimp only at h
      split at h
      · cases h
      · rcases bind_eq_error_iff.mp h with h | ⟨quoted, -, h⟩
        · exact isInvalid_of_quote h
        · cases h
    · rcases bind_eq_error_iff.mp h with h | ⟨rest, -, h⟩
      · exact ih h
      · cases h

theorem isInvalid_of_filtersOf (h : filtersOf raw = .error e) : IsInvalid e := by
  unfold filtersOf parseFilters at h
  repeat' split at h
  all_goals cases h
  all_goals exact ⟨_, rfl⟩

theorem isInvalid_of_statement {q : Query} (h : q.statement settings = .error e) :
    IsInvalid e := by
  rw [statement_eq_bind, bind_eq_error_iff] at h
  rcases h with h | ⟨filters, -, h⟩
  · exact isInvalid_of_filtersOf h
  rcases bind_eq_error_iff.mp h with h | ⟨depth, -, h⟩
  · unfold resolveDepth at h
    dsimp only at h
    split at h
    · cases h
    · cases h; exact ⟨_, rfl⟩
  rcases bind_eq_error_iff.mp h with h | ⟨conds, -, h⟩
  · exact isInvalid_of_conditions h
  · rcases bind_eq_error_iff.mp h with h | ⟨expression, -, h⟩
    · exact isInvalid_of_labelExpression h
    · cases h

-- ---------------------------------------------------------------------------
-- Queries
-- ---------------------------------------------------------------------------

end KnowledgeGraph.Node
