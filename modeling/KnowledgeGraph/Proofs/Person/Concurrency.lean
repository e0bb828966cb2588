import KnowledgeGraph.Proofs.Person.Accounts
import KnowledgeGraph.Proofs.Workflow.Interleaving

/-!
# Signing up at the same time

Sign-ups whose calls interleave in any order, against a store that creates no second account of a
name. Names are kept apart by the store. Phone numbers are kept apart only by the look that each
sign-up takes before it writes: two that look before either has written both find the number free.
-/

namespace KnowledgeGraph

namespace Person

open Workflow

def SignUp.IsNew (r : SignUp) (accounts : List Account) : Prop :=
  r.IsComplete ∧ IsFree accounts (Text.trim r.username) (Text.trim r.phone)

/-- Of the new ones among some sign-ups, those of one phone number are of one name. -/
def PhonesTellNames (rs : List SignUp) (accounts : List Account) : Prop :=
  ∀ r ∈ rs, ∀ r' ∈ rs, r.IsNew accounts → r'.IsNew accounts →
    Text.trim r.phone = Text.trim r'.phone → Text.trim r.username = Text.trim r'.username

-- ---------------------------------------------------------------------------
-- What is true of the store all the time
-- ---------------------------------------------------------------------------

/-- The accounts of a store that had some accounts, after some of the sign-ups. -/
structure Grown (start : List Account) (rs : List SignUp) (accounts : List Account) : Prop where
  kept : ∀ a ∈ start, a ∈ accounts
  known : ∀ a ∈ accounts, a ∈ start ∨
    ∃ r ∈ rs, r.IsNew start ∧ a.username = Text.trim r.username ∧ a.phone = Text.trim r.phone
  usernames : (accounts.map (·.username)).Nodup
  phones : PhonesTellNames rs start → (accounts.map (·.phone)).Nodup

namespace Grown

theorem refl {start : List Account} (rs : List SignUp)
    (husernames : (start.map (·.username)).Nodup) (hphones : (start.map (·.phone)).Nodup) :
    Grown start rs start :=
  ⟨fun _ ha => ha, fun _ ha => .inl ha, husernames, fun _ => hphones⟩

/-- A new account of a free name. Its number is free too if numbers tell names: whoever else could
have it would have taken the name. -/
theorem create (h : Grown start rs accounts) (hr : r ∈ rs) (hnew : r.IsNew start)
    (hname : ∀ a ∈ accounts, a.username ≠ Text.trim r.username)
    (hperm : accounts'.Perm (⟨Text.trim r.username, stored, Text.trim r.phone⟩ :: accounts)) :
    Grown start rs accounts' where
  kept a ha := hperm.mem_iff.2 (List.mem_cons_of_mem _ (h.kept a ha))
  known := by
    intro a ha
    rcases List.mem_cons.1 (hperm.mem_iff.1 ha) with rfl | ha
    · exact .inr ⟨r, hr, hnew, rfl, rfl⟩
    · exact h.known a ha
  usernames := by
    rw [(hperm.map _).nodup_iff, List.map_cons, List.nodup_cons]
    refine ⟨fun hmem => ?_, h.usernames⟩
    obtain ⟨a, ha, hsame⟩ := List.mem_map.1 hmem
    exact hname a ha hsame
  phones := by
    intro htell
    rw [(hperm.map _).nodup_iff, List.map_cons, List.nodup_cons]
    refine ⟨fun hmem => ?_, h.phones htell⟩
    obtain ⟨a, ha, hphone⟩ := List.mem_map.1 hmem
    rcases h.known a ha with hstart | ⟨r', hr', hnew', husername, hphone'⟩
    · exact (hnew.2 a hstart).1 hphone
    · refine hname a ha (husername.trans ?_)
      exact htell r' hr' r hr hnew' hnew (hphone'.symm.trans hphone)

end Grown

-- ---------------------------------------------------------------------------
-- How far a sign-up is
-- ---------------------------------------------------------------------------

section
variable (answer : (c : Call) → σ → c.Answer × σ) (store : σ → γ)

end

section
variable {answer : (c : Call) → σ → c.Answer × σ} {store : σ → γ} {accounts : γ → List Account}
  {scheme : Password.Scheme} {tokens : Token.Authority} {start : List Account} {rs : List SignUp}

end

end Person

end KnowledgeGraph
