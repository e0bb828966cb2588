import KnowledgeGraph.Proofs.Wire.Shape

/-!
# What a record was read from

Whatever can be read is whole. A record that was read from an object has each of its required
fields from the one member of that name.
-/

namespace KnowledgeGraph.Wire

-- ---------------------------------------------------------------------------
-- Whole values
-- ---------------------------------------------------------------------------

theorem Source.allWhole_iff {vs : List Source} :
    Source.allWhole vs = true ↔ ∀ v ∈ vs, v.isWhole = true := by
  induction vs with
  | nil => simp [Source.allWhole]
  | cons v vs ih => rw [Source.allWhole, Bool.and_eq_true, ih, List.forall_mem_cons]

theorem Source.allMembersWhole_iff {ms : List (Option String × Source)} :
    Source.allMembersWhole ms = true ↔ ∀ m ∈ ms, m.2.isWhole = true := by
  induction ms with
  | nil => simp [Source.allMembersWhole]
  | cons m ms ih => rw [Source.allMembersWhole, Bool.and_eq_true, ih, List.forall_mem_cons]

mutual
theorem Source.isWhole_of_toJson : (v : Source) → v.toJson depth = .ok j → v.isWhole = true
  | .null, _ | .bool _, _ | .num _, _ | .str _, _ | .outOfRange, _ | .garbled, _ => rfl
  | .broken, h => by simp [Source.toJson] at h
  | .list items, h => by
    cases depth with
    | zero => simp [Source.toJson] at h
    | succ depth =>
      simp only [Source.toJson, bind_eq_ok_iff] at h
      obtain ⟨js, hjs, -⟩ := h
      exact Source.allWhole_of_itemsToJson items hjs
  | .object ms, h => by
    cases depth with
    | zero => simp [Source.toJson] at h
    | succ depth =>
      simp only [Source.toJson, bind_eq_ok_iff] at h
      obtain ⟨js, hjs, -⟩ := h
      exact Source.allMembersWhole_of_membersToJson ms hjs
theorem Source.allWhole_of_itemsToJson : (vs : List Source) →
    Source.itemsToJson depth vs = .ok js → Source.allWhole vs = true
  | [], _ => rfl
  | v :: vs, h => by
    simp only [Source.itemsToJson, bind_eq_ok_iff] at h
    obtain ⟨j, hj, js, hjs, -⟩ := h
    rw [Source.allWhole, v.isWhole_of_toJson hj, Source.allWhole_of_itemsToJson vs hjs,
      Bool.and_self]
theorem Source.allMembersWhole_of_membersToJson : (ms : List (Option String × Source)) →
    Source.membersToJson depth ms acc = .ok js → Source.allMembersWhole ms = true
  | [], _ => rfl
  | (none, _) :: _, h => by simp [Source.membersToJson] at h
  | (some k, v) :: ms, h => by
    simp only [Source.membersToJson, bind_eq_ok_iff] at h
    obtain ⟨j, hj, hjs⟩ := h
    rw [Source.allMembersWhole, v.isWhole_of_toJson hj,
      Source.allMembersWhole_of_membersToJson ms hjs, Bool.and_self]
end

theorem Source.eq_num_of_integer {low high n : Int} {v : Source}
    (h : v.integer low high = .ok n) : v = .num (.int n) ∧ low ≤ n ∧ n ≤ high := by
  unfold Source.integer at h
  split at h
  · split at h <;> cases h
    exact ⟨rfl, ‹_›⟩
  · cases h

theorem Source.isWhole_of_integer {low high : Int} {v : Source} {f : Int → β}
    (h : (v.integer low high).map f = .ok b) : v.isWhole = true := by
  obtain ⟨n, hn, -⟩ := map_eq_ok_iff.1 h
  rw [(Source.eq_num_of_integer hn).1]
  rfl

-- ---------------------------------------------------------------------------
-- Members
-- ---------------------------------------------------------------------------

/-- A reader of members that puts those of a record into their slots, and skips others if they are
whole. -/
def Layout.Reads (l : Layout) (depth : Nat)
    (step : l.Slots → Option String × Source → Except Fault l.Slots) : Prop :=
  ∀ slots m slots', step slots m = .ok slots' → ∃ key, m.1 = some key ∧
    (l.readMember depth key m.2 slots = some (.ok slots') ∨
      l.readMember depth key m.2 slots = none ∧ slots' = slots ∧ m.2.isWhole = true)

theorem Layout.reads_step (l : Layout) (depth : Nat) : l.Reads depth (l.step depth) := by
  rintro slots ⟨_ | key, v⟩ slots' h
  · cases h
  refine ⟨key, rfl, ?_⟩
  simp only [Layout.step] at h
  cases hr : l.readMember depth key v slots with
  | some r =>
    rw [hr] at h
    exact .inl (congrArg some h)
  | none =>
    simp only [hr] at h
    split at h
    · next hwhole =>
      cases h
      exact .inr ⟨rfl, rfl, hwhole⟩
    · cases h

mutual
theorem Shape.isWhole_of_read : (s : Shape) → {depth : Nat} → {v : Source} → {a : s.Meaning} →
    s.read depth v = .ok a → v.isWhole = true
  | .text, depth, v, a, h => by
    cases v <;> simp [Shape.read] at h
    rfl
  | .flag, depth, v, a, h => by
    cases v <;> simp [Shape.read] at h
    rfl
  | .int64, _, _, _, h | .nat64, _, _, _, h | .nat32, _, _, _, h | .nat16, _, _, _, h =>
    Source.isWhole_of_integer h
  | .float, depth, v, a, h => by
    cases v <;> simp [Shape.read] at h
    rfl
  | .any, depth, v, a, h => v.isWhole_of_toJson h
  | .object, depth, v, a, h => by
    cases v <;> simp [Shape.read] at h
    rename_i ms
    cases depth with
    | zero => cases h
    | succ depth => exact Source.allMembersWhole_of_membersToJson ms h
  | .optional s, depth, v, a, h => by
    by_cases hv : v = .null
    · rw [hv]
      rfl
    · rw [Shape.read_optional hv, map_eq_ok_iff] at h
      obtain ⟨a, ha, -⟩ := h
      exact s.isWhole_of_read ha
  | .list s, depth, v, a, h => by
    cases v <;> simp [Shape.read] at h
    rename_i items
    cases depth with
    | zero => cases h
    | succ depth =>
      refine Source.allWhole_iff.2 fun v hv => ?_
      obtain ⟨a, ha⟩ := exists_of_mapM h v hv
      exact s.isWhole_of_read ha
  | .record l, depth, v, a, h => by
    cases v <;> simp [Shape.read] at h
    · cases depth with
      | zero => cases h
      | succ depth => exact l.allWhole_of_readItems h
    · rename_i ms
      cases depth with
      | zero => cases h
      | succ depth =>
        have hread := (Shape.read_record l depth ms).symm.trans h
        obtain ⟨slots, hfold, -⟩ := bind_eq_ok_iff.1 hread
        refine Source.allMembersWhole_iff.2 fun m hm => ?_
        obtain ⟨slots, slots', hstep⟩ := exists_of_foldlM hfold m hm
        obtain ⟨key, -, hmember | ⟨-, -, hwhole⟩⟩ := l.reads_step depth slots m slots' hstep
        · exact l.isWhole_of_readMember hmember
        · exact hwhole
theorem Layout.isWhole_of_readMember : (l : Layout) → {depth : Nat} → {key : String} →
    {v : Source} → {slots slots' : l.Slots} →
    l.readMember depth key v slots = some (.ok slots') → v.isWhole = true
  | .nil, _, _, _, _, _, h => by simp [Layout.readMember] at h
  | .cons name presence s rest, depth, key, v, (slot, slots), slots', h => by
    simp only [Layout.readMember] at h
    split at h
    · split at h
      · cases h
      · obtain ⟨a, ha, -⟩ := map_eq_ok_iff.1 (Option.some.inj h)
        exact s.isWhole_of_read ha
    · obtain ⟨r, hr, hmap⟩ := Option.map_eq_some_iff.1 h
      obtain ⟨slots'', rfl, -⟩ := map_eq_ok_iff.1 hmap
      exact rest.isWhole_of_readMember hr
theorem Layout.allWhole_of_readItems : (l : Layout) → {depth : Nat} → {vs : List Source} →
    {r : l.Meaning} → l.readItems depth vs = .ok r → Source.allWhole vs = true
  | _, _, [], _, _ => rfl
  | .nil, _, _ :: _, _, h => by simp [Layout.readItems] at h
  | .cons name presence s rest, depth, v :: vs, r, h => by
    simp only [Layout.readItems, bind_eq_ok_iff] at h
    obtain ⟨a, ha, r, hr, -⟩ := h
    rw [Source.allWhole, s.isWhole_of_read ha, rest.allWhole_of_readItems hr, Bool.and_self]
end

-- ---------------------------------------------------------------------------
-- Fields
-- ---------------------------------------------------------------------------

def valuesOf (name : String) (ms : List (Option String × Source)) : List Source :=
  ms.filterMap fun m => if m.1 = some name then some m.2 else none

/-- A field that must not be missing from a record: where its slot is, and where its value. -/
structure Layout.IsRequired (l : Layout) (name : String) (s : Shape)
    (slot : l.Slots → Option s.Meaning) (value : l.Meaning → s.Meaning) : Prop where
  empty : slot l.emptySlots = none
  known (n : Nat) : l.readMember n name v slots ≠ none
  own {n : Nat} : l.readMember n name v slots = some (.ok slots') →
    slot slots = none ∧ ∃ a, s.read n v = .ok a ∧ slot slots' = some a
  other {n : Nat} : key ≠ name → l.readMember n key v slots = some (.ok slots') →
    slot slots' = slot slots
  finish : l.finish slots = .ok r → slot slots = some (value r)

section
variable {l rest : Layout} {name other : String} {presence : Presence} {s t : Shape}

theorem Layout.isRequired_head (h : presence.inObject = false) :
    (Layout.cons name presence s rest).IsRequired name s Prod.fst Prod.fst where
  empty := rfl
  own {v slots slots' n} hread := by
    obtain ⟨slot, slots⟩ := slots
    simp only [Layout.readMember, if_true] at hread
    split at hread
    · cases hread
    · obtain ⟨a, ha, rfl⟩ := map_eq_ok_iff.1 (Option.some.inj hread)
      exact ⟨rfl, a, ha, rfl⟩
  known {v slots} n := by
    obtain ⟨slot, slots⟩ := slots
    simp only [Layout.readMember, if_true]
    split <;> simp
  other {key v slots slots' n} hne hread := by
    obtain ⟨slot, slots⟩ := slots
    simp only [Layout.readMember, if_neg hne] at hread
    obtain ⟨r, -, hmap⟩ := Option.map_eq_some_iff.1 hread
    obtain ⟨slots'', -, rfl⟩ := map_eq_ok_iff.1 hmap
    rfl
  finish {slots r} hfinish := by
    obtain ⟨slot, slots⟩ := slots
    simp only [Layout.finish, h] at hfinish
    split at hfinish
    · obtain ⟨r', -, rfl⟩ := map_eq_ok_iff.1 hfinish
      rfl
    · cases hfinish

variable {slot : rest.Slots → Option s.Meaning} {value : rest.Meaning → s.Meaning}

theorem Layout.IsRequired.tail (h : rest.IsRequired name s slot value) (hne : other ≠ name) :
    (Layout.cons other presence t rest).IsRequired name s (slot ·.2) (value ·.2) where
  empty := h.empty
  own {v slots slots' n} hread := by
    obtain ⟨first, slots⟩ := slots
    simp only [Layout.readMember, if_neg hne.symm] at hread
    obtain ⟨r, hr, hmap⟩ := Option.map_eq_some_iff.1 hread
    obtain ⟨slots'', rfl, rfl⟩ := map_eq_ok_iff.1 hmap
    exact h.own hr
  known {v slots} n := by
    obtain ⟨first, slots⟩ := slots
    simp only [Layout.readMember, if_neg hne.symm, ne_eq, Option.map_eq_none_iff]
    exact h.known n
  other {key v slots slots' n} hkey hread := by
    obtain ⟨first, slots⟩ := slots
    simp only [Layout.readMember] at hread
    split at hread
    · split at hread
      · cases hread
      · obtain ⟨a, -, rfl⟩ := map_eq_ok_iff.1 (Option.some.inj hread)
        rfl
    · obtain ⟨r, hr, hmap⟩ := Option.map_eq_some_iff.1 hread
      obtain ⟨slots'', rfl, rfl⟩ := map_eq_ok_iff.1 hmap
      exact h.other hkey hr
  finish {slots r} hfinish := by
    obtain ⟨first, slots⟩ := slots
    simp only [Layout.finish] at hfinish
    split at hfinish
    · obtain ⟨r', hr, rfl⟩ := map_eq_ok_iff.1 hfinish
      exact h.finish hr
    · split at hfinish
      · obtain ⟨r', hr, rfl⟩ := map_eq_ok_iff.1 hfinish
        exact h.finish hr
      · cases hfinish

end

section
variable {l : Layout} {name : String} {s : Shape} {slot : l.Slots → Option s.Meaning}
  {value : l.Meaning → s.Meaning} {n : Nat}
  {step : l.Slots → Option String × Source → Except Fault l.Slots}
  {ms : List (Option String × Source)} {slots slots' : l.Slots}

theorem Layout.IsRequired.foldlM (h : l.IsRequired name s slot value) (hstep : l.Reads n step)
    (hfold : ms.foldlM step slots = .ok slots') :
    (valuesOf name ms = [] ∧ slot slots' = slot slots) ∨
      slot slots = none ∧ ∃ v a, valuesOf name ms = [v] ∧ s.read n v = .ok a ∧
        slot slots' = some a := by
  induction ms generalizing slots with
  | nil =>
    cases hfold
    exact .inl ⟨rfl, rfl⟩
  | cons m ms ih =>
    rw [List.foldlM_cons, bind_eq_ok_iff] at hfold
    obtain ⟨between, hm, hms⟩ := hfold
    obtain ⟨key, hkey, hmember⟩ := hstep slots m between hm
    have ih := ih hms
    by_cases hname : key = name
    · rw [hname] at hkey hmember
      have hvalues : valuesOf name (m :: ms) = m.2 :: valuesOf name ms := by
        simp [valuesOf, hkey]
      have hown := hmember.resolve_right fun hnone => h.known n hnone.1
      obtain ⟨hempty, a, ha, hfilled⟩ := h.own hown
      -- A second member of the name would find the slot filled.
      rcases ih with ⟨hnil, hsame⟩ | ⟨hnone, -⟩
      · exact .inr ⟨hempty, m.2, a, by rw [hvalues, hnil], ha, hsame.trans hfilled⟩
      · rw [hfilled] at hnone
        cases hnone
    · have hvalues : valuesOf name (m :: ms) = valuesOf name ms := by
        simp [valuesOf, hkey, hname]
      have hsame : slot between = slot slots := by
        rcases hmember with hread | ⟨-, rfl, -⟩
        · exact h.other hname hread
        · rfl
      rw [hvalues, ← hsame]
      exact ih

/-- A required field is read from the one member of its name. -/
theorem Layout.IsRequired.read_of_foldlM (h : l.IsRequired name s slot value)
    (hstep : l.Reads n step) (hfold : ms.foldlM step l.emptySlots = .ok slots)
    (hfinish : l.finish slots = .ok r) :
    ∃ v, valuesOf name ms = [v] ∧ s.read n v = .ok (value r) := by
  have hfilled := h.finish hfinish
  rcases h.foldlM hstep hfold with ⟨-, hsame⟩ | ⟨-, v, a, hv, ha, hslot⟩
  · rw [hsame, h.empty] at hfilled
    cases hfilled
  · rw [hslot] at hfilled
    cases hfilled
    exact ⟨v, hv, ha⟩

/-- Members that were read have names and are whole. -/
theorem Layout.Reads.forall_mem_of_foldlM (hstep : l.Reads n step)
    (hfold : ms.foldlM step slots = .ok slots') :
    ∀ m ∈ ms, m.1.isSome = true ∧ m.2.isWhole = true := by
  intro m hm
  obtain ⟨slots, slots', hm⟩ := exists_of_foldlM hfold m hm
  obtain ⟨key, hkey, hread | ⟨-, -, hwhole⟩⟩ := hstep slots m slots' hm
  · exact ⟨by rw [hkey]; rfl, l.isWhole_of_readMember hread⟩
  · exact ⟨by rw [hkey]; rfl, hwhole⟩

end

theorem Shape.eq_str_of_read {n : Nat} (h : Shape.text.read n v = .ok a) : v = .str a := by
  cases v <;> simp [Shape.read] at h
  rw [h]

theorem Shape.eq_num_of_read {n : Nat} {a : UInt64} (h : Shape.nat64.read n v = .ok a) :
    v = .num (.int a.toNat) := by
  obtain ⟨k, hk, rfl⟩ := map_eq_ok_iff.1 h
  obtain ⟨rfl, hlow, hhigh⟩ := Source.eq_num_of_integer hk
  have hlt : k.toNat < 2 ^ 64 := by
    have : (maxNat64 : Int) < 2 ^ 64 := by decide
    omega
  rw [UInt64.toNat_ofNat', Nat.mod_eq_of_lt hlt, Int.toNat_of_nonneg hlow]

end KnowledgeGraph.Wire
