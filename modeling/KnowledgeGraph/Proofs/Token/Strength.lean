import Mathlib.Data.Finset.Card
import KnowledgeGraph.Proofs.Outcome
import KnowledgeGraph.Proofs.Text.Case
import KnowledgeGraph.Proofs.Text.Separator
import KnowledgeGraph.Proofs.Text.Utf8
import KnowledgeGraph.Proofs.Token.Validity

/-!
# Which secrets are taken

A secret is to be long, made of many characters, and free of what is guessed first. Its length is
told in characters but counted in bytes, so a secret that is too short may be taken if it is not of
ASCII alone.
-/

namespace KnowledgeGraph.Token

-- ---------------------------------------------------------------------------
-- What is asked of a secret
-- ---------------------------------------------------------------------------

def IsVaried (secret : String) : Prop := 8 ≤ secret.toList.toFinset.card

def IsUnguessed (endsWord : List Char → List Char → Bool) (secret : String) : Prop :=
  ∀ guess ∈ guessedFirst, ¬ guess.toList <:+: (Text.lowerCase endsWord secret).toList

structure IsStrong (endsWord : List Char → List Char → Bool) (secret : String) : Prop where
  long : 32 ≤ secret.length
  varied : IsVaried secret
  unguessed : IsUnguessed endsWord secret

def Settings.IsTaken (s : Settings) : Prop := ∃ a, Authority.ofSettings s = .ok a

-- ---------------------------------------------------------------------------
-- Characters and bytes
-- ---------------------------------------------------------------------------

theorem length_le_utf8ByteSize (s : String) : s.length ≤ s.utf8ByteSize := by
  have hsum (cs : List Char) : cs.length ≤ (cs.flatMap String.utf8EncodeChar).length := by
    induction cs with
    | nil => exact Nat.le_refl 0
    | cons c cs ih =>
      have hpos := c.utf8Size_pos
      rw [List.flatMap_cons, List.length_append, String.length_utf8EncodeChar, List.length_cons]
      omega
  have hbytes := Text.Utf8.bytes_ofList s.toList
  rw [String.ofList_toList] at hbytes
  rw [← Text.Utf8.length_bytes, hbytes, ← String.length_toList]
  exact hsum s.toList

theorem length_eraseDups [DecidableEq α] (as : List α) :
    as.eraseDups.length = as.toFinset.card := by
  induction hn : as.length using Nat.strong_induction_on generalizing as with
  | _ n ih =>
    cases as with
    | nil => rfl
    | cons a as =>
      have hlength := List.length_filter_le (!· == a) as
      have hrest := ih _ (by simp only [List.length_cons] at hn; omega) (as.filter (!· == a)) rfl
      have hnew : a ∉ (as.filter (!· == a)).toFinset := by simp
      have hinsert : (a :: as).toFinset = insert a (as.filter (!· == a)).toFinset := by
        ext b
        by_cases hb : b = a <;> simp [hb]
      rw [List.eraseDups_cons, List.length_cons, hrest, hinsert, Finset.card_insert_of_notMem hnew]

theorem isVaried_iff {secret : String} :
    IsVaried secret ↔ ¬ distinctChars secret < minDistinctChars := by
  rw [IsVaried, distinctChars, length_eraseDups, minDistinctChars, Nat.not_lt]

-- ---------------------------------------------------------------------------
-- The check
-- ---------------------------------------------------------------------------

section
variable (endsWord : List Char → List Char → Bool) {secret : String}

/-- No guess has a letter that may come from beyond ASCII, so it is found whatever lower case is. -/
theorem weakness?_eq_none_iff : weakness? secret = none ↔ IsUnguessed endsWord secret := by
  have hall : guessedFirst.all (fun guess =>
      guess.toList.all (Text.IsOwn ·) && !guess.toList.isEmpty) = true := by decide +kernel
  have hown : ∀ guess ∈ guessedFirst, (∀ c ∈ guess.toList, Text.IsOwn c) ∧ guess.toList ≠ [] := by
    simpa only [List.all_eq_true, Bool.and_eq_true, decide_eq_true_eq, Bool.not_eq_true',
      List.isEmpty_eq_false_iff] using hall
  rw [weakness?, List.find?_eq_none]
  refine forall₂_congr fun guess hguess => ?_
  obtain ⟨hguess, hne⟩ := hown guess hguess
  rw [Text.infix_lowerCase_iff hguess hne, Bool.not_eq_true, Text.contains_eq_false_iff,
    String.toList_ofList]

theorem checkSecret_eq_ok_iff : checkSecret (some secret) = .ok taken ↔
    (32 ≤ secret.utf8ByteSize ∧ IsVaried secret ∧ IsUnguessed endsWord secret) ∧
      taken = secret := by
  rw [← weakness?_eq_none_iff, isVaried_iff, ← Nat.not_lt]
  dsimp only [checkSecret, checkSecret.refuse]
  change (if secret.utf8ByteSize < 32 then _ else _) = _ ↔ _
  split
  · next hshort => simp [hshort]
  · next hlong =>
    split
    · next hfew => simp [hfew]
    · next hmany =>
      cases weakness? secret with
      | some guess => simp
      | none => simp [hlong, hmany, eq_comm]

theorem ofSettings_eq_ok_iff : Authority.ofSettings ⟨some secret, hours⟩ = .ok a ↔
    (32 ≤ secret.utf8ByteSize ∧ IsVaried secret ∧ IsUnguessed endsWord secret) ∧
      a = Authority.ofSecret secret hours := by
  simp only [Authority.ofSettings_eq, map_eq_ok_iff, checkSecret_eq_ok_iff endsWord]
  constructor
  · rintro ⟨taken, ⟨hgood, rfl⟩, rfl⟩
    exact ⟨hgood, rfl⟩
  · rintro ⟨hgood, rfl⟩
    exact ⟨secret, ⟨hgood, rfl⟩, rfl⟩

end

-- ---------------------------------------------------------------------------
-- The authority
-- ---------------------------------------------------------------------------

theorem lifetime_ofSecret (secret : String) (hours : Nat) :
    (Authority.ofSecret secret hours).lifetime = min (2 ^ 64 - 1) (3600 * hours) := by
  rw [Nat.mul_comm]
  rfl

theorem validate_issue (a : Authority) (issuedAt : UInt64) (username : String) :
    a.validate issuedAt.toNat (a.issue issuedAt.toNat username) =
      .ok ⟨username, UInt64.ofNat (min (2 ^ 64 - 1) (issuedAt.toNat + a.lifetime)), issuedAt,
        some username⟩ := by
  have hlast : issuedAt.toNat ≤ 2 ^ 64 - 1 := Nat.le_of_lt_succ issuedAt.toNat_lt
  have hclaims : a.claims issuedAt.toNat username =
      ⟨username, UInt64.ofNat (min (2 ^ 64 - 1) (issuedAt.toNat + a.lifetime)), issuedAt,
        some username⟩ := by
    rw [Authority.claims, UInt64.ofNat_toNat]
    rfl
  have hend : issuedAt.toNat ≤
      (UInt64.ofNat (min (2 ^ 64 - 1) (issuedAt.toNat + a.lifetime))).toNat + leeway := by
    rw [UInt64.toNat_ofNat', Nat.mod_eq_of_lt (by omega)]
    omega
  rw [Authority.issue, validate_seal rfl, hclaims, if_pos hend]

/-- Whatever ends a word, a secret is taken exactly if it has 32 bytes, is varied and is unguessed.
That is what is asked of it, unless it has 32 bytes but not so many characters, and nothing else is
wrong with it. The tokens of a secret that is taken hold as long as the settings say, as far as
there are times. -/
theorem secrets_are_measured_in_bytes_iff (endsWord : List Char → List Char → Bool)
    (secret : String) (hours : Nat) :
    (Settings.IsTaken ⟨some secret, hours⟩ ↔
      32 ≤ secret.utf8ByteSize ∧ IsVaried secret ∧ IsUnguessed endsWord secret) ∧
    ((Settings.IsTaken ⟨some secret, hours⟩ ↔ IsStrong endsWord secret) ↔
      ¬ (secret.length < 32 ∧ 32 ≤ secret.utf8ByteSize ∧ IsVaried secret ∧
        IsUnguessed endsWord secret)) ∧
    ∀ a, Authority.ofSettings ⟨some secret, hours⟩ = .ok a →
      a.lifetime = min (2 ^ 64 - 1) (3600 * hours) ∧
      ∀ (issuedAt : UInt64) (username : String),
        a.validate issuedAt.toNat (a.issue issuedAt.toNat username) =
          .ok ⟨username, UInt64.ofNat (min (2 ^ 64 - 1) (issuedAt.toNat + a.lifetime)), issuedAt,
            some username⟩ := by
  have htaken : Settings.IsTaken ⟨some secret, hours⟩ ↔
      32 ≤ secret.utf8ByteSize ∧ IsVaried secret ∧ IsUnguessed endsWord secret := by
    simp only [Settings.IsTaken, ofSettings_eq_ok_iff endsWord]
    exact ⟨fun ⟨_, hgood, _⟩ => hgood, fun hgood => ⟨_, hgood, rfl⟩⟩
  refine ⟨htaken, ?_, ?_⟩
  · rw [htaken]
    constructor
    · rintro hsame ⟨hshort, hgood⟩
      exact Nat.not_le_of_lt hshort (hsame.mp hgood).long
    · intro hnot
      constructor
      · intro hgood
        exact ⟨Nat.le_of_not_lt fun hshort => hnot ⟨hshort, hgood⟩, hgood.2.1, hgood.2.2⟩
      · intro hstrong
        have hle := length_le_utf8ByteSize secret
        exact ⟨hstrong.long.trans hle, hstrong.varied, hstrong.unguessed⟩
  · intro a ha
    obtain ⟨-, rfl⟩ := (ofSettings_eq_ok_iff endsWord).mp ha
    exact ⟨lifetime_ofSecret secret hours, validate_issue _⟩

def accents : String := "àáâãäåæçèéêëìíîï"

theorem accents_are_taken : accents.length = 16 ∧ Settings.IsTaken ⟨some accents, 24⟩ ∧
    ∀ endsWord, ¬ (Settings.IsTaken ⟨some accents, 24⟩ ↔ IsStrong endsWord accents) := by
  have hlength : accents.length = 16 := by decide +kernel
  have htaken : Settings.IsTaken ⟨some accents, 24⟩ := by
    have hcheck : checkSecret (some accents) = .ok accents := by decide +kernel
    exact ⟨Authority.ofSecret accents 24, by rw [Authority.ofSettings_eq, hcheck]; rfl⟩
  refine ⟨hlength, htaken, fun endsWord hsame => ?_⟩
  have hlong := (hsame.mp htaken).long
  rw [hlength] at hlong
  exact absurd hlong (by decide)

end KnowledgeGraph.Token
