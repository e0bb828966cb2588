import Mathlib.Data.List.Forall2
import KnowledgeGraph.Person.Account
import KnowledgeGraph.Proofs.Graph.Deeds
import KnowledgeGraph.Proofs.Workflow.Turns

/-!
# Accounts in a store

What a graph store makes of statements about people, as these are read, told by the accounts that are
in it. Nothing is said of the order in which people are found, nor of what else is in the store.
-/

namespace KnowledgeGraph.Person

open KnowledgeGraph.Graph (Deed Field Known Meets Record Shows Statement)

structure Account where
  username : String
  /-- In its stored form. -/
  password : String
  phone : String
  deriving DecidableEq

def accountKeys : List String := ["username", "password", "phone"]

def Account.known (a : Account) : Known
  | .property "username" => some a.username
  | .property "password" => some a.password
  | .property "phone" => some a.phone
  | _ => none

def IsFree (accounts : List Account) (username phone : String) : Prop :=
  ∀ a ∈ accounts, a.phone ≠ phone ∧ a.username ≠ username

def Creates (st : Statement) (a : Account) : Prop :=
  ∃ labels properties column, st.deed? = some (.create labels properties column) ∧
    "Person" ∈ labels ∧
    ∀ key ∈ accountKeys, properties.lookup key = (a.known (.property key)).map Json.str

/-- Backends whose store does to its accounts what statements do, as these are read: it finds the
people that meet a condition on what an account tells, and it creates a person. It may refuse to create
a second account of a name. Clock, randomness and counters are no part of the store. -/
structure RunsAccounts (answer : (c : Call) → σ → c.Answer × σ) (store : σ → γ)
    (accounts : γ → List Account) : Prop where
  find {st alternatives columns} (s : σ) :
    st.deed? = some (.find "Person" alternatives columns none) →
    (∀ e ∈ alternatives.flatten, ∃ key ∈ accountKeys, e.1 = .property key) →
    (columns.map (·.2)).Nodup → ∃ found rows,
      (answer (.query st) s).1 = .ok rows ∧
      found.Perm ((accounts (store s)).filter fun a => Meets alternatives a.known) ∧
      List.Forall₂ (fun a => Shows columns a.known) found rows ∧
      store (answer (.query st) s).2 = store s
  create {st a} (s : σ) : Creates st a → (∀ b ∈ accounts (store s), b.username ≠ a.username) →
    ∃ rows, (answer (.query st) s).1 = .ok rows ∧
      (accounts (store (answer (.query st) s).2)).Perm (a :: accounts (store s))
  clock (s : σ) : store (answer .now s).2 = store s
  randomness (n : Nat) (s : σ) :
    (answer (.entropy n) s).1.size = n ∧ store (answer (.entropy n) s).2 = store s
  counting (event : Telemetry.Event) (s : σ) : store (answer (.count event) s).2 = store s

theorem deed?_holders (username phone : String) : (holders username phone).deed? =
    some (.find "Person"
      [[(.property "phone", .str phone)], [(.property "username", .str username)]]
      [(.elementId, "id")] none) := by
  refine Statement.deed?_ofLines (d := .find "Person" [[(.property "phone", "phone")],
    [(.property "username", "username")]] [(.elementId, "id")] none) (by simp) ?_ rfl
  simp only [List.map_cons, List.map_nil]
  repeat rw [String.toList_ofList]
  decide +kernel

theorem deed?_create (username password phone : String) :
    (create username password phone).deed? =
      some (.create ["Person", "L3"]
        [("username", .str username), ("password", .str password), ("phone", .str phone)]
        "id") := by
  refine Statement.deed?_ofLines (d := .create ["Person", "L3"] [("username", "username"),
    ("password", "password"), ("phone", "phone")] "id") (by simp) ?_ rfl
  simp only [List.map_cons, List.map_nil, String.toList_append, Graph.braced]
  repeat rw [String.toList_ofList]
  decide +kernel

theorem deed?_passwordOf (username : String) : (passwordOf username).deed? =
    some (.find "Person" [[(.property "username", .str username)]]
      [(.property "password", "password")] none) := by
  refine Statement.deed?_ofLines (d := .find "Person" [[(.property "username", "username")]]
    [(.property "password", "password")] none) (by simp) ?_ rfl
  simp only [List.map_cons, List.map_nil]
  repeat rw [String.toList_ofList]
  decide +kernel

theorem creates_create (username password phone : String) :
    Creates (create username password phone) ⟨username, password, phone⟩ := by
  refine ⟨_, _, _, deed?_create username password phone, List.mem_cons_self, ?_⟩
  simp [accountKeys, Account.known, List.lookup_cons]

theorem meets_phone_or_username {a : Account} {username phone : String} :
    Meets [[(.property "phone", .str phone)], [(.property "username", .str username)]] a.known ↔
      a.phone = phone ∨ a.username = username := by
  simp [Meets, Account.known, Json.str?]

theorem meets_username {a : Account} {username : String} :
    Meets [[(.property "username", .str username)]] a.known ↔ a.username = username := by
  simp [Meets, Account.known, Json.str?]

namespace RunsAccounts

variable {answer : (c : Call) → σ → c.Answer × σ} {store : σ → γ} {accounts : γ → List Account}

theorem lookup (h : RunsAccounts answer store accounts) (username phone : String) (s : σ) :
    ∃ rows, (answer (.query (holders username phone)) s).1 = .ok rows ∧
      (rows = [] ↔ IsFree (accounts (store s)) username phone) ∧
      store (answer (.query (holders username phone)) s).2 = store s := by
  obtain ⟨found, rows, hrows, hperm, hshows, hstore⟩ :=
    h.find s (deed?_holders username phone) (by simp [accountKeys]) (by simp)
  refine ⟨rows, hrows, ?_, hstore⟩
  have hempty : rows = [] ↔ (accounts (store s)).filter (fun a => Meets
      [[(.property "phone", .str phone)], [(.property "username", .str username)]] a.known) =
        [] := by
    rw [← List.length_eq_zero_iff, ← hshows.length_eq, hperm.length_eq, List.length_eq_zero_iff]
  rw [hempty, List.filter_eq_nil_iff]
  simp [IsFree, meets_phone_or_username]

theorem creation (h : RunsAccounts answer store accounts) (username password phone : String)
    (s : σ) (hfree : ∀ a ∈ accounts (store s), a.username ≠ username) :
    ∃ rows, (answer (.query (Person.create username password phone)) s).1 = .ok rows ∧
      (accounts (store (answer (.query (Person.create username password phone)) s).2)).Perm
        (⟨username, password, phone⟩ :: accounts (store s)) :=
  h.create s (creates_create username password phone) hfree

theorem password (h : RunsAccounts answer store accounts) (username : String) (s : σ) :
    ∃ rows, (answer (.query (passwordOf username)) s).1 = .ok rows ∧
      (rows.map (·.str? "password")).Perm
        (((accounts (store s)).filter (·.username = username)).map fun a => some a.password) ∧
      store (answer (.query (passwordOf username)) s).2 = store s := by
  obtain ⟨found, rows, hrows, hperm, hshows, hstore⟩ :=
    h.find s (deed?_passwordOf username) (by simp [accountKeys]) (by simp)
  refine ⟨rows, hrows, ?_, hstore⟩
  simp only [meets_username] at hperm
  have hpasswords : (found.map fun a => some a.password) = rows.map (·.str? "password") := by
    rw [← List.forall₂_eq_eq_eq, List.forall₂_map_left_iff, List.forall₂_map_right_iff]
    refine hshows.imp fun a row hshow => ?_
    exact (hshow (.property "password", "password") List.mem_cons_self a.password rfl).symm
  rw [← hpasswords]
  exact hperm.map _

end RunsAccounts

-- ---------------------------------------------------------------------------
-- A store of accounts only
-- ---------------------------------------------------------------------------

end KnowledgeGraph.Person
