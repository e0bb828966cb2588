import KnowledgeGraph.Proofs.Wire.Members

/-!
# Values that can be held

A value can be read as any value exactly if all numbers in it are in range, all texts well-formed,
and lists and objects nested no deeper than the reader goes. A record of one field is then read
from an object with that field, whatever else is in it.
-/

namespace KnowledgeGraph.Wire

/-- All numbers in a value are in range and all its texts well-formed, and lists and objects are
nested in it no deeper than this. -/
inductive Source.Fits : Nat → Source → Prop where
  | null : Fits depth .null
  | bool (b : Bool) : Fits depth (.bool b)
  | num (n : Json.Number) : Fits depth (.num n)
  | str (s : String) : Fits depth (.str s)
  | list : (∀ v ∈ items, Fits depth v) → Fits (depth + 1) (.list items)
  | object : (∀ m ∈ ms, m.1.isSome = true) → (∀ m ∈ ms, Fits depth m.2) →
      Fits (depth + 1) (.object ms)

-- ---------------------------------------------------------------------------
-- What was read fits
-- ---------------------------------------------------------------------------

mutual
theorem Source.fits_of_toJson : (v : Source) → v.toJson depth = .ok j → v.Fits depth
  | .null, _ => .null
  | .bool b, _ => .bool b
  | .num n, _ => .num n
  | .str s, _ => .str s
  | .outOfRange, h | .garbled, h | .broken, h => by simp [Source.toJson] at h
  | .list items, h => by
    cases depth with
    | zero => simp [Source.toJson] at h
    | succ depth =>
      simp only [Source.toJson, bind_eq_ok_iff] at h
      obtain ⟨js, hjs, -⟩ := h
      exact .list (Source.fits_of_itemsToJson items hjs)
  | .object ms, h => by
    cases depth with
    | zero => simp [Source.toJson] at h
    | succ depth =>
      simp only [Source.toJson, bind_eq_ok_iff] at h
      obtain ⟨js, hjs, -⟩ := h
      have hms := Source.fits_of_membersToJson ms hjs
      exact .object (fun m hm => (hms m hm).1) fun m hm => (hms m hm).2
theorem Source.fits_of_itemsToJson : (vs : List Source) →
    Source.itemsToJson depth vs = .ok js → ∀ v ∈ vs, v.Fits depth
  | [], _ => List.forall_mem_nil _
  | v :: vs, h => by
    simp only [Source.itemsToJson, bind_eq_ok_iff] at h
    obtain ⟨j, hj, js, hjs, -⟩ := h
    exact List.forall_mem_cons.mpr ⟨v.fits_of_toJson hj, Source.fits_of_itemsToJson vs hjs⟩
theorem Source.fits_of_membersToJson : (ms : List (Option String × Source)) →
    Source.membersToJson depth ms acc = .ok js → ∀ m ∈ ms, m.1.isSome = true ∧ m.2.Fits depth
  | [], _ => List.forall_mem_nil _
  | (none, _) :: _, h => by simp [Source.membersToJson] at h
  | (some k, v) :: ms, h => by
    simp only [Source.membersToJson, bind_eq_ok_iff] at h
    obtain ⟨j, hj, hjs⟩ := h
    exact List.forall_mem_cons.mpr ⟨⟨rfl, v.fits_of_toJson hj⟩, Source.fits_of_membersToJson ms hjs⟩
end

-- ---------------------------------------------------------------------------
-- What fits is read
-- ---------------------------------------------------------------------------

theorem Source.exists_itemsToJson {vs : List Source} (h : ∀ v ∈ vs, ∃ j, v.toJson depth = .ok j) :
    ∃ js, Source.itemsToJson depth vs = .ok js := by
  induction vs with
  | nil => exact ⟨[], rfl⟩
  | cons v vs ih =>
    obtain ⟨⟨j, hj⟩, hvs⟩ := List.forall_mem_cons.mp h
    obtain ⟨js, hjs⟩ := ih hvs
    exact ⟨j :: js, by rw [Source.itemsToJson, hj, hjs]; rfl⟩

theorem Source.exists_membersToJson {ms : List (Option String × Source)}
    (hkeys : ∀ m ∈ ms, m.1.isSome = true) (h : ∀ m ∈ ms, ∃ j, m.2.toJson depth = .ok j)
    (acc : Json.Members) : ∃ js, Source.membersToJson depth ms acc = .ok js := by
  induction ms generalizing acc with
  | nil => exact ⟨acc, rfl⟩
  | cons m ms ih =>
    obtain ⟨hkey, hrest⟩ := List.forall_mem_cons.mp hkeys
    obtain ⟨⟨j, hj⟩, hms⟩ := List.forall_mem_cons.mp h
    obtain ⟨_ | k, v⟩ := m
    · cases hkey
    · obtain ⟨js, hjs⟩ := ih hrest hms (Json.Members.insert k j acc)
      exact ⟨js, by rw [Source.membersToJson, hj]; exact hjs⟩

theorem Source.Fits.exists_toJson {v : Source} (h : v.Fits depth) :
    ∃ j, v.toJson depth = .ok j := by
  induction h with
  | null | bool _ | num _ | str _ => exact ⟨_, by rw [Source.toJson]⟩
  | list _ ih =>
    obtain ⟨js, hjs⟩ := Source.exists_itemsToJson ih
    exact ⟨.arr js, by rw [Source.toJson, hjs]; rfl⟩
  | object hkeys _ ih =>
    obtain ⟨js, hjs⟩ := Source.exists_membersToJson hkeys ih []
    exact ⟨.obj js, by rw [Source.toJson, hjs]; rfl⟩

theorem Source.exists_toJson_iff {v : Source} : (∃ j, v.toJson depth = .ok j) ↔ v.Fits depth :=
  ⟨fun ⟨_, h⟩ => v.fits_of_toJson h, Source.Fits.exists_toJson⟩

theorem Source.Fits.isWhole {v : Source} (h : v.Fits depth) : v.isWhole = true := by
  obtain ⟨j, hj⟩ := h.exists_toJson
  exact v.isWhole_of_toJson hj

-- ---------------------------------------------------------------------------
-- Records of one field
-- ---------------------------------------------------------------------------

theorem exists_of_valuesOf {ms : List (Option String × Source)} (h : valuesOf name ms = [v]) :
    ∃ before after, ms = before ++ (some name, v) :: after ∧
      (∀ m ∈ before, m.1 ≠ some name) ∧ ∀ m ∈ after, m.1 ≠ some name := by
  obtain ⟨before, ⟨key, w⟩, after, rfl, hbefore, hm, hafter⟩ := List.filterMap_eq_cons_iff.mp h
  simp only [ite_eq_right_iff, reduceCtorEq, imp_false, Option.ite_none_right_eq_some,
    Option.some.injEq, List.filterMap_eq_nil_iff] at hbefore hm hafter
  obtain ⟨rfl, rfl⟩ := hm
  exact ⟨before, after, rfl, hbefore, hafter⟩

/-- A record without fields skips whatever fits. -/
theorem Layout.foldlM_step_nil {ms : List (Option String × Source)}
    (hkeys : ∀ m ∈ ms, m.1.isSome = true) (hms : ∀ m ∈ ms, m.2.Fits limit) (depth : Nat) :
    ms.foldlM (Layout.nil.step depth) () = .ok () := by
  induction ms with
  | nil => rfl
  | cons m ms ih =>
    obtain ⟨hkey, hothers⟩ := List.forall_mem_cons.mp hkeys
    obtain ⟨hm, hrest⟩ := List.forall_mem_cons.mp hms
    obtain ⟨_ | key, v⟩ := m
    · cases hkey
    · have hstep : Layout.nil.step depth () (some key, v) = .ok () := by
        simp only [Layout.step, Layout.readMember]
        exact if_pos hm.isWhole
      rw [List.foldlM_cons, hstep]
      exact ih hothers hrest

section
variable {name : String} {presence : Presence} {s : Shape} {ms : List (Option String × Source)}
  {depth : Nat}

theorem Layout.foldlM_step_others (hother : ∀ m ∈ ms, m.1 ≠ some name)
    (hkeys : ∀ m ∈ ms, m.1.isSome = true) (hms : ∀ m ∈ ms, m.2.Fits limit)
    (slot : Option s.Meaning) :
    ms.foldlM ((Layout.cons name presence s .nil).step depth) (slot, ()) = .ok (slot, ()) := by
  rw [Layout.foldlM_step_other hother, Layout.foldlM_step_nil hkeys hms]
  rfl

theorem Shape.read_field {v : Source} (h : valuesOf name ms = [v]) {a : s.Meaning}
    (hread : s.read depth v = .ok a) (hkeys : ∀ m ∈ ms, m.1.isSome = true)
    (hms : ∀ m ∈ ms, m.2.Fits limit) :
    (Shape.record (.cons name presence s .nil)).read (depth + 1) (.object ms) = .ok (a, ()) := by
  obtain ⟨before, after, rfl, hbefore, hafter⟩ := exists_of_valuesOf h
  rw [List.forall_mem_append, List.forall_mem_cons] at hkeys hms
  rw [Shape.read_record, List.foldlM_append, Layout.emptySlots, Layout.emptySlots,
    Layout.foldlM_step_others hbefore hkeys.1 hms.1]
  show List.foldlM _ (none, ()) _ >>= _ = _
  rw [List.foldlM_cons, Layout.step_field hread]
  show List.foldlM _ (some a, ()) _ >>= _ = _
  rw [Layout.foldlM_step_others hafter hkeys.2.2 hms.2.2]
  rfl

theorem Shape.read_field_ne_ok {v : Source} (hpresence : presence.inObject = false)
    (h : valuesOf name ms = [v]) (hread : ∀ a, s.read depth v ≠ .ok a)
    (r : (Layout.cons name presence s .nil).Meaning) :
    (Shape.record (.cons name presence s .nil)).read (depth + 1) (.object ms) ≠ .ok r := by
  intro hok
  rw [Shape.read_record, bind_eq_ok_iff] at hok
  obtain ⟨slots, hfold, hfinish⟩ := hok
  obtain ⟨w, hw, hreads⟩ := (Layout.isRequired_head hpresence).read_of_foldlM
    (Layout.reads_step _ depth) hfold hfinish
  cases hw.symm.trans h
  exact hread _ hreads

end

end KnowledgeGraph.Wire
