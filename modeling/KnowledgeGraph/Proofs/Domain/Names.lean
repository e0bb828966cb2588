import Mathlib.Data.List.Forall2
import Mathlib.Logic.Function.Basic
import KnowledgeGraph.Proofs.Domain.Edit

/-!
# Names of domains

The names of the domains in a store, what running the statements about domains does to them, and
a store in memory that runs them so.
-/

namespace KnowledgeGraph.Domain

open KnowledgeGraph.Graph (Deed Field Known Meets Shows Statement limited)

/-- The names of the domains, by element id. -/
abbrev Names := String → Option String

def Distinct (names : Names) : Prop :=
  ∀ i j name, names i = some name → names j = some name → i = j

theorem Distinct.update {names : Names} {id name : String} (h : Distinct names)
    (hfree : ∀ other, other ≠ id → names other ≠ some name) :
    Distinct (Function.update names id (some name)) := by
  intro i j n hi hj
  by_cases hii : i = id <;> by_cases hjj : j = id
  · rw [hii, hjj]
  · subst hii
    rw [Function.update_self] at hi
    rw [Function.update_of_ne hjj, ← hi] at hj
    exact absurd hj (hfree j hjj)
  · subst hjj
    rw [Function.update_self] at hj
    rw [Function.update_of_ne hii, ← hj] at hi
    exact absurd hi (hfree i hii)
  · rw [Function.update_of_ne hii] at hi
    rw [Function.update_of_ne hjj] at hj
    exact h i j n hi hj

def known (domain : String × String) : Known
  | .elementId => some domain.1
  | .property "name" => some domain.2
  | _ => none

/-- A call that does not name a domain: a statement that spares domains, or a count. -/
inductive Quiet : Call → Prop where
  | sparing : st.deed? = some d → d.Spares "Domain" → Quiet (.query st)
  | count (event : Telemetry.Event) : Quiet (.count event)

/-- A store that does to its domains what statements do, as these are read. It finds the domains that
meet a condition on id and name; it creates a domain under a fresh id; it sets the name of a domain
that is there; and it deletes relationships. Nothing else is asked of it, but that quiet calls leave
the names as they are. -/
structure RunsDomains (answer : (c : Call) → σ → c.Answer × σ) (names : σ → Names) : Prop where
  find {st alternatives columns limit?} (s : σ) :
    st.deed? = some (.find "Domain" alternatives columns limit?) →
    (∀ e ∈ alternatives.flatten, e.1 = .elementId ∨ e.1 = .property "name") →
    (columns.map (·.2)).Nodup → ∃ found rows s',
      answer (.query st) s = (.ok rows, s') ∧ names s' = names s ∧
      (∀ id name, (id, name) ∈ found ↔
        names s id = some name ∧ Meets alternatives (known (id, name))) ∧
      List.Forall₂ (fun domain => Shows columns (known domain)) (limited limit? found) rows
  create {st labels properties column} (name : String) (s : σ) :
    st.deed? = some (.create labels properties column) → "Domain" ∈ labels →
    properties.lookup "name" = some (.str name) → ∃ id rows s',
      answer (.query st) s = (.ok rows, s') ∧
      names s id = none ∧ names s' = Function.update (names s) id (some name)
  set {st properties} (id name : String) (s : σ) :
    st.deed? = some (.set "Domain" (.str id) properties) →
    properties.lookup "name" = some (.str name) → names s id ≠ none → ∃ rows s',
      answer (.query st) s = (.ok rows, s') ∧
      names s' = Function.update (names s) id (some name)
  unlink {st label types ids} (s : σ) : st.deed? = some (.unlink label types ids) → ∃ rows s',
    answer (.query st) s = (.ok rows, s') ∧ names s' = names s
  quiet (c : Call) (s : σ) : Quiet c → names (answer c s).2 = names s

-- ---------------------------------------------------------------------------
-- The statements of an edit
-- ---------------------------------------------------------------------------

namespace RunsDomains

variable {answer : (c : Call) → σ → c.Answer × σ} {names : σ → Names}

theorem find_by (h : RunsDomains answer names) {field : Field}
    (hst : st.deed? = some (.find "Domain" [[(field, .str text)]] [(field', column)] limit?))
    (hfield : field = .elementId ∨ field = .property "name") (s : σ) :
    ∃ found rows s', answer (.query st) s = (.ok rows, s') ∧ names s' = names s ∧
      (∀ id name, (id, name) ∈ found ↔
        names s id = some name ∧ known (id, name) field = some text) ∧
      List.Forall₂ (fun domain row => ∀ value, known domain field' = some value →
        row.str? column = some value) (limited limit? found) rows := by
  obtain ⟨found, rows, s', hanswer, hnames, hfound, hrows⟩ := h.find s hst
    (by simpa using hfield) (by simp)
  refine ⟨found, rows, s', hanswer, hnames, fun id name => (hfound id name).trans ?_, ?_⟩
  · have hknown : (known (id, name) field).isSome := by
      rcases hfield with rfl | rfl <;> rfl
    simp [Meets, hknown, Json.str?]
  · exact hrows.imp fun _ _ hshows => hshows _ List.mem_cons_self

theorem idByName (h : RunsDomains answer names) (name : String) (s : σ) :
    ∃ rows s', answer (.query (Domain.idByName name)) s = (.ok rows, s') ∧ names s' = names s ∧
      (elementId? rows = none ↔ ∀ id, names s id ≠ some name) := by
  obtain ⟨found, rows, s', hanswer, hnames, hfound, hrows⟩ :=
    h.find_by (deed?_idByName name) (.inr rfl) s
  refine ⟨rows, s', hanswer, hnames, ?_⟩
  have hholder (id : String) : (id, name) ∈ found ↔ names s id = some name :=
    (hfound id name).trans (and_iff_left rfl)
  cases found with
  | nil =>
    cases hrows
    exact iff_of_true rfl fun id hid => by cases (hholder id).mpr hid
  | cons domain found =>
    obtain ⟨id, name'⟩ := domain
    obtain ⟨hid, hname⟩ := (hfound id name').mp List.mem_cons_self
    cases hname
    cases hrows with
    | @cons _ row _ rows hrow _ =>
      have hsome : elementId? (row :: rows) = some id := hrow id rfl
      exact iff_of_false (by rw [hsome]; nofun) fun hfree => hfree id hid

theorem nameById (h : RunsDomains answer names) (id : String) (s : σ) :
    ∃ rows s', answer (.query (Domain.nameById id)) s = (.ok rows, s') ∧ names s' = names s ∧
      (rows = [] ↔ names s id = none) := by
  obtain ⟨found, rows, s', hanswer, hnames, hfound, hrows⟩ :=
    h.find_by (deed?_nameById id) (.inl rfl) s
  refine ⟨rows, s', hanswer, hnames, ?_⟩
  rw [← List.length_eq_zero_iff, ← hrows.length_eq, List.length_eq_zero_iff, limited,
    List.eq_nil_iff_forall_not_mem, Option.eq_none_iff_forall_ne_some]
  constructor
  · exact fun hnone name hname => hnone (id, name) ((hfound id name).mpr ⟨hname, rfl⟩)
  · rintro hnone ⟨id', name⟩ hmem
    obtain ⟨hname, hid⟩ := (hfound id' name).mp hmem
    cases hid
    exact hnone name hname

theorem create_domain (h : RunsDomains answer names) (name description : String) (s : σ) :
    ∃ id rows s', answer (.query (Domain.create name description)) s = (.ok rows, s') ∧
      names s id = none ∧ names s' = Function.update (names s) id (some name) :=
  h.create name s (deed?_create name description) List.mem_cons_self rfl

theorem rename (h : RunsDomains answer names) (id name description : String) (s : σ)
    (hid : names s id ≠ none) :
    ∃ rows s', answer (.query (Domain.rename id name description)) s = (.ok rows, s') ∧
      names s' = Function.update (names s) id (some name) :=
  h.set id name s (deed?_rename id name description) rfl hid

theorem deleteProgress (h : RunsDomains answer names) (removed : List String) (s : σ) :
    ∃ rows s', answer (.query (Domain.deleteProgress removed)) s = (.ok rows, s') ∧
      names s' = names s :=
  h.unlink s (deed?_deleteProgress removed)

end RunsDomains

-- ---------------------------------------------------------------------------
-- A store in memory
-- ---------------------------------------------------------------------------

/-- The ids and names of some domains. -/
abbrev Catalogue := List (String × String)

namespace Catalogue

def names (domains : Catalogue) : Names := fun id => domains.lookup id

def fresh : Catalogue → String
  | [] => "d"
  | (id, _) :: rest => id ++ fresh rest

def setName (domains : Catalogue) (id name : String) : Catalogue :=
  domains.map fun (i, n) => (i, if i = id then name else n)

def matching (domains : Catalogue) (alternatives : List (List (Field × Json))) : Catalogue :=
  domains.filter fun p => domains.lookup p.1 = some p.2 ∧ Meets alternatives (known p)

def nameOf (properties : List (String × Json)) : String :=
  ((properties.lookup "name").bind Json.str?).getD ""

/-- Does what a statement does to domains; any other is answered a row of texts. -/
def query (st : Statement) (domains : Catalogue) : List Graph.Record × Catalogue :=
  match st.deed? with
  | some (.find "Domain" alternatives columns limit?) =>
    ((limited limit? (domains.matching alternatives)).map fun p => (known p).row columns, domains)
  | some (.create labels properties column) =>
    if "Domain" ∈ labels then
      ([.ofPairs [(column, .str domains.fresh)]], (domains.fresh, nameOf properties) :: domains)
    else ([], domains)
  | some (.set "Domain" (.str id) properties) =>
    ([.ofPairs [("elementId", .str id)]], domains.setName id (nameOf properties))
  | _ => ([.ofPairs (st.columns.map (·, .str "n"))], domains)

theorem names_cons (id name : String) (domains : Catalogue) :
    names ((id, name) :: domains) = Function.update domains.names id (some name) := by
  funext i
  rw [names, List.lookup_cons, Function.update_apply]
  by_cases h : i = id
  · simp [h]
  · rw [beq_false_of_ne h, if_neg h]
    rfl

end Catalogue

open Catalogue

end KnowledgeGraph.Domain
