import KnowledgeGraph.Proofs.Outcome
import KnowledgeGraph.Proofs.Wire.Text
import KnowledgeGraph.Wire.Shape

/-!
# Records read back

A value of a shape in which everything is written exactly is read back from what is written of it.
-/

namespace KnowledgeGraph.Wire

-- ---------------------------------------------------------------------------
-- Shapes
-- ---------------------------------------------------------------------------

def Layout.names : Layout → List String
  | .nil => []
  | .cons name _ _ rest => name :: rest.names

def Shape.isOptional : Shape → Bool
  | .optional _ => true
  | _ => false

mutual
/-- Whether all that is written of a value is a text, a flag, an integer or nothing, in lists and
records, so that the value can be told from it. -/
def Shape.isExact : Shape → Bool
  | .text | .flag | .int64 | .nat64 | .nat32 | .nat16 => true
  | .float | .any | .object => false
  | .optional s => !s.isOptional && s.isExact
  | .list s => s.isExact
  | .record l => l.isExact
def Layout.isExact : Layout → Bool
  | .nil => true
  | .cons name _ s rest => s.isExact && !rest.names.contains name && rest.isExact
end

mutual
def Shape.depth : Shape → Nat
  | .optional s => s.depth
  | .list s => s.depth + 1
  | .record l => l.depth + 1
  | _ => 0
def Layout.depth : Layout → Nat
  | .nil => 0
  | .cons _ _ s rest => max s.depth rest.depth
end

theorem Source.ofItems_eq_map (vs : List Json) : Source.ofItems vs = vs.map Source.ofJson := by
  induction vs with
  | nil => rfl
  | cons v vs ih => rw [Source.ofItems, ih, List.map_cons]

theorem Source.ofMembers_eq_map (ms : List (String × Json)) :
    Source.ofMembers ms = ms.map fun m => (some m.1, Source.ofJson m.2) := by
  induction ms with
  | nil => rfl
  | cons m ms ih =>
    obtain ⟨k, v⟩ := m
    rw [Source.ofMembers, ih, List.map_cons]

-- ---------------------------------------------------------------------------
-- Members and slots
-- ---------------------------------------------------------------------------

def Layout.step (depth : Nat) (l : Layout) (slots : l.Slots) (m : Option String × Source) :
    Except Fault l.Slots :=
  match m.1 with
  | none => .error .malformed
  | some key =>
    match l.readMember depth key m.2 slots with
    | some slots => slots
    | none => if m.2.isWhole then .ok slots else .error .malformed

theorem Shape.read_record (l : Layout) (depth : Nat) (ms : List (Option String × Source)) :
    (Shape.record l).read (depth + 1) (.object ms) =
      ms.foldlM (l.step depth) l.emptySlots >>= l.finish := by
  rw [Shape.read]
  rfl

def Layout.slotsOf : (l : Layout) → l.Meaning → l.Slots
  | .nil, _ => ()
  | .cons _ presence s rest, (a, r) =>
    (if presence = .sparse ∧ s.isAbsent a then none else some a, rest.slotsOf r)

theorem Shape.eq_absent_of_isAbsent : (s : Shape) → {a : s.Meaning} → s.isAbsent a = true →
    a = s.absent
  | .optional _, none, _ => by rw [Shape.absent]

theorem Layout.finish_slotsOf : (l : Layout) → (r : l.Meaning) → l.finish (l.slotsOf r) = .ok r
  | .nil, _ => by rw [Layout.finish.eq_def]
  | .cons name presence s rest, (a, r) => by
    have ih := rest.finish_slotsOf r
    by_cases h : presence = .sparse ∧ s.isAbsent a = true
    · simp only [Layout.slotsOf, if_pos h, Layout.finish, ih]
      rw [h.1, s.eq_absent_of_isAbsent h.2]
      rfl
    · simp only [Layout.slotsOf, if_neg h, Layout.finish, ih]
      rfl

section
variable {depth : Nat} {name : String} {presence : Presence} {s : Shape} {rest : Layout}

theorem Layout.step_field {v : Source} {a : s.Meaning} (h : s.read depth v = .ok a)
    (slots : rest.Slots) :
    (Layout.cons name presence s rest).step depth (none, slots) (some name, v) =
      .ok (some a, slots) := by
  simp only [Layout.step, Layout.readMember, h]
  simp [Except.map]

theorem Layout.step_other {m : Option String × Source} (h : m.1 ≠ some name)
    (slot : Option s.Meaning) (slots : rest.Slots) :
    (Layout.cons name presence s rest).step depth (slot, slots) m =
      (rest.step depth slots m).map fun slots => (slot, slots) := by
  obtain ⟨key, v⟩ := m
  cases key with
  | none => rfl
  | some key =>
    have hkey : key ≠ name := fun heq => h (congrArg some heq)
    simp only [Layout.step, Layout.readMember, if_neg hkey]
    cases rest.readMember depth key v slots with
    | some result => rfl
    | none =>
      simp only [Option.map_none]
      split <;> rfl

theorem Layout.foldlM_step_other {ms : List (Option String × Source)}
    (h : ∀ m ∈ ms, m.1 ≠ some name) (slot : Option s.Meaning) (slots : rest.Slots) :
    ms.foldlM ((Layout.cons name presence s rest).step depth) (slot, slots) =
      (ms.foldlM (rest.step depth) slots).map fun slots => (slot, slots) := by
  induction ms generalizing slots with
  | nil => rfl
  | cons m ms ih =>
    rw [List.foldlM_cons, List.foldlM_cons, step_other (h m List.mem_cons_self)]
    cases rest.step depth slots m with
    | error fault => rfl
    | ok slots => exact ih (fun m' hm' => h m' (List.mem_cons_of_mem m hm')) slots

end

theorem Layout.fst_mem_names : (l : Layout) → (r : l.Meaning) → ∀ m ∈ l.write r, m.1 ∈ l.names
  | .nil, _, m, hm => by simp [Layout.write] at hm
  | .cons name presence s rest, (a, r), m, hm => by
    have ih := rest.fst_mem_names r m
    rw [Layout.write] at hm
    rw [Layout.names, List.mem_cons]
    split at hm
    · exact .inr (ih hm)
    · rcases List.mem_cons.1 hm with rfl | hm
      · exact .inl rfl
      · exact .inr (ih hm)

-- ---------------------------------------------------------------------------
-- Reading what was written
-- ---------------------------------------------------------------------------

theorem minInt64_le_toInt (n : Int64) : minInt64 ≤ n.toInt := n.le_toInt

theorem toInt_le_maxInt64 (n : Int64) : n.toInt ≤ maxInt64 := Int.le_of_lt_add_one n.toInt_lt

theorem toNat_le_maxNat64 (n : UInt64) : n.toNat ≤ maxNat64 := Nat.le_of_lt_succ n.toNat_lt

theorem toNat_le_maxNat32 (n : UInt32) : n.toNat ≤ maxNat32 := Nat.le_of_lt_succ n.toNat_lt

theorem toNat_le_maxNat16 (n : UInt16) : n.toNat ≤ maxNat16 := Nat.le_of_lt_succ n.toNat_lt

theorem Source.integer_ofJson {low high n : Int} (hlow : low ≤ n) (hhigh : n ≤ high) :
    (Source.ofJson (.int n)).integer low high = .ok n := by
  rw [Json.int, Source.ofJson, Source.integer, if_pos ⟨hlow, hhigh⟩]

theorem Source.integer_ofNat {high n : Nat} (h : n ≤ high) :
    (Source.ofJson (.nat n)).integer 0 high = .ok n :=
  integer_ofJson (Int.natCast_nonneg n) (Int.ofNat_le.2 h)

theorem Shape.read_optional {s : Shape} {v : Source} (h : v ≠ .null) (depth : Nat) :
    (Shape.optional s).read depth v = (s.read depth v).map some := by
  rw [Shape.read]
  exact h

theorem Shape.mapM_read {s : Shape} {depth : Nat}
    (h : ∀ a, s.read depth (.ofJson (s.write a)) = .ok a) (as : List s.Meaning) :
    (Source.ofItems (as.map s.write)).mapM (s.read depth) = .ok as := by
  rw [Source.ofItems_eq_map, List.map_map]
  induction as with
  | nil => rfl
  | cons a as ih =>
    rw [List.map_cons, List.mapM_cons, ih]
    simp only [Function.comp_apply, h]
    rfl

/-- Only an absent value is written as nothing. -/
theorem Shape.ofJson_write_ne_null : (s : Shape) → s.isExact = true → s.isOptional = false →
    (a : s.Meaning) → Source.ofJson (s.write a) ≠ .null := by
  intro s hexact hoptional a
  cases s <;> simp [Shape.isExact, Shape.isOptional] at hexact hoptional <;>
    simp [Shape.write, Source.ofJson, Json.int, Json.nat]

mutual
theorem Shape.read_write : (s : Shape) → s.isExact = true → (depth : Nat) → s.depth ≤ depth →
    (a : s.Meaning) → s.read depth (.ofJson (s.write a)) = .ok a
  | .text, _, depth, _, a => by simp [Shape.write, Source.ofJson, Shape.read]
  | .flag, _, depth, _, a => by simp [Shape.write, Source.ofJson, Shape.read]
  | .int64, _, depth, _, a => by
    rw [Shape.write, Shape.read, Source.integer_ofJson (minInt64_le_toInt a) (toInt_le_maxInt64 a)]
    exact congrArg Except.ok (Int64.ofInt_toInt a)
  | .nat64, _, depth, _, a => by
    rw [Shape.write, Shape.read, Source.integer_ofNat (toNat_le_maxNat64 a)]
    exact congrArg Except.ok (UInt64.ofNat_toNat)
  | .nat32, _, depth, _, a => by
    rw [Shape.write, Shape.read, Source.integer_ofNat (toNat_le_maxNat32 a)]
    exact congrArg Except.ok (UInt32.ofNat_toNat)
  | .nat16, _, depth, _, a => by
    rw [Shape.write, Shape.read, Source.integer_ofNat (toNat_le_maxNat16 a)]
    exact congrArg Except.ok (UInt16.ofNat_toNat)
  | .optional s, hexact, depth, hdepth, none => by simp [Shape.write, Source.ofJson, Shape.read]
  | .optional s, hexact, depth, hdepth, some a => by
    rw [Shape.isExact, Bool.and_eq_true, Bool.not_eq_true'] at hexact
    have hread := s.read_write hexact.2 depth hdepth a
    have hne := s.ofJson_write_ne_null hexact.2 hexact.1 a
    rw [Shape.write, Shape.read_optional hne, hread]
    rfl
  | .list s, hexact, depth, hdepth, as => by
    rw [Shape.depth] at hdepth
    obtain ⟨depth, rfl⟩ : ∃ n, depth = n + 1 := ⟨depth - 1, by omega⟩
    have hread := s.read_write hexact depth (Nat.le_of_succ_le_succ hdepth)
    rw [Shape.write, Source.ofJson, Shape.read]
    exact Shape.mapM_read hread as
  | .record l, hexact, depth, hdepth, r => by
    rw [Shape.depth] at hdepth
    obtain ⟨depth, rfl⟩ : ∃ n, depth = n + 1 := ⟨depth - 1, by omega⟩
    have hfold := l.foldlM_write hexact depth (Nat.le_of_succ_le_succ hdepth) r
    rw [Shape.write, Source.ofJson, Shape.read_record, hfold]
    exact l.finish_slotsOf r
theorem Layout.foldlM_write : (l : Layout) → l.isExact = true → (depth : Nat) → l.depth ≤ depth →
    (r : l.Meaning) →
    (Source.ofMembers (l.write r)).foldlM (l.step depth) l.emptySlots = .ok (l.slotsOf r)
  | .nil, _, _, _, _ => rfl
  | .cons name presence s rest, hexact, depth, hdepth, (a, r) => by
    simp only [Layout.isExact, Bool.and_eq_true, Bool.not_eq_true'] at hexact
    obtain ⟨⟨hs, hname⟩, hrest⟩ := hexact
    rw [Layout.depth] at hdepth
    have hread := s.read_write hs depth (by omega) a
    have hfold := rest.foldlM_write hrest depth (by omega) r
    have hother : ∀ m ∈ Source.ofMembers (rest.write r), m.1 ≠ some name := by
      intro m hm heq
      rw [Source.ofMembers_eq_map] at hm
      obtain ⟨written, hwritten, rfl⟩ := List.mem_map.1 hm
      have hmem := rest.fst_mem_names r written hwritten
      rw [Option.some.inj heq] at hmem
      simp [hmem] at hname
    rw [Layout.write, Layout.slotsOf, Layout.emptySlots]
    split
    · rw [Layout.foldlM_step_other hother, hfold]
      rfl
    · rw [Source.ofMembers, List.foldlM_cons, Layout.step_field hread]
      show List.foldlM _ (some a, rest.emptySlots) _ = _
      rw [Layout.foldlM_step_other hother, hfold]
      rfl
end

theorem isIntegral_nat {n : Nat} (h : n ≤ maxNat64) : (Json.nat n).isIntegral = true := by
  have hlow : minInt64 ≤ 0 := by decide
  rw [Json.nat, Json.isIntegral, decide_eq_true_eq]
  omega

theorem allIntegral_map {f : α → Json} (h : ∀ a, (f a).isIntegral = true) (as : List α) :
    Json.allIntegral (as.map f) = true := by
  induction as with
  | nil => rfl
  | cons a as ih => rw [List.map_cons, Json.allIntegral, h a, ih, Bool.and_self]

mutual
theorem Shape.isIntegral_write : (s : Shape) → s.isExact = true → (a : s.Meaning) →
    (s.write a).isIntegral = true
  | .text, _, _ | .flag, _, _ | .optional _, _, none => by simp [Shape.write, Json.isIntegral]
  | .int64, _, a => by
    have hhigh : maxInt64 ≤ maxNat64 := by decide
    rw [Shape.write, Json.int, Json.isIntegral, decide_eq_true_eq]
    exact ⟨minInt64_le_toInt a, Int.le_trans (toInt_le_maxInt64 a) hhigh⟩
  | .nat64, _, a => isIntegral_nat (toNat_le_maxNat64 a)
  | .nat32, _, a => isIntegral_nat (Nat.le_trans (toNat_le_maxNat32 a) (by decide))
  | .nat16, _, a => isIntegral_nat (Nat.le_trans (toNat_le_maxNat16 a) (by decide))
  | .optional s, hexact, some a => by
    rw [Shape.isExact, Bool.and_eq_true] at hexact
    rw [Shape.write]
    exact s.isIntegral_write hexact.2 a
  | .list s, hexact, as => by
    rw [Shape.write, Json.isIntegral]
    exact allIntegral_map (s.isIntegral_write hexact) as
  | .record l, hexact, r => by
    rw [Shape.write, Json.isIntegral]
    exact l.isIntegral_write hexact r
theorem Layout.isIntegral_write : (l : Layout) → l.isExact = true → (r : l.Meaning) →
    Json.allMembersIntegral (l.write r) = true
  | .nil, _, _ => rfl
  | .cons name presence s rest, hexact, (a, r) => by
    simp only [Layout.isExact, Bool.and_eq_true] at hexact
    rw [Layout.write]
    split
    · exact rest.isIntegral_write hexact.2 r
    · rw [Json.allMembersIntegral, s.isIntegral_write hexact.1.1 a,
        rest.isIntegral_write hexact.2 r, Bool.and_self]
end

-- ---------------------------------------------------------------------------
-- Records
-- ---------------------------------------------------------------------------

section
variable [Writable α]

theorem isIntegral_toJson (h : (Readable.fields α).isExact = true) (a : α) :
    (toJson a).isIntegral = true := by
  rw [toJson, Json.isIntegral]
  exact Layout.isIntegral_write _ h _

theorem ofJson_toJson (h : (Readable.fields α).isExact = true)
    (hdepth : (Readable.fields α).depth < maxDepth) (a : α) :
    readAs α (.ofJson (toJson a)) = .ok (Readable.ofMeaning (Writable.toMeaning a)) := by
  have hread := (Shape.record (Readable.fields α)).read_write h maxDepth hdepth
    (Writable.toMeaning a)
  rw [Shape.write] at hread
  rw [readAs, toJson, hread]
  rfl

end

end KnowledgeGraph.Wire
