import KnowledgeGraph.Bolt.Value
import KnowledgeGraph.Proofs.Json.Members
import KnowledgeGraph.Proofs.Number.Rounding

/-!
# Parameters read back

A value that is sent to the database and read again keeps its structure, its keys and its numbers,
except for integers that 64 bits with a sign have no room for. Each of these is read as a float
near it.
-/

namespace KnowledgeGraph

namespace Json

-- ---------------------------------------------------------------------------
-- Values and their numbers
-- ---------------------------------------------------------------------------

/-- Integers are in their range and floats finite, and objects are in the order of their keys. -/
inductive WellFormed : Json → Prop where
  | null : WellFormed .null
  | bool (b : Bool) : WellFormed (.bool b)
  | int : minInt64 ≤ n → n ≤ maxNat64 → WellFormed (.int n)
  | float : x.isFinite = true → WellFormed (.float x)
  | str (s : String) : WellFormed (.str s)
  | arr : (∀ j ∈ items, WellFormed j) → WellFormed (.arr items)
  | obj : Members.Sorted members → (∀ m ∈ members, WellFormed m.2) → WellFormed (.obj members)

/-- A number occurs in a value, at whatever depth. -/
inductive Occurs (n : Number) : Json → Prop where
  | here : Occurs n (.num n)
  | item : j ∈ items → Occurs n j → Occurs n (.arr items)
  | member : m ∈ members → Occurs n m.2 → Occurs n (.obj members)

section
variable (f : Number → Number)

mutual
def mapNumbers : Json → Json
  | .null => .null
  | .bool b => .bool b
  | .num n => .num (f n)
  | .str s => .str s
  | .arr items => .arr (mapItems items)
  | .obj ms => .obj (mapMembers ms)
def mapItems : List Json → List Json
  | [] => []
  | j :: js => mapNumbers j :: mapItems js
def mapMembers : List (String × Json) → List (String × Json)
  | [] => []
  | (k, j) :: ms => (k, mapNumbers j) :: mapMembers ms
end

theorem mapItems_eq (items : List Json) : mapItems f items = items.map (mapNumbers f) := by
  induction items with
  | nil => rfl
  | cons j js ih => rw [mapItems, ih, List.map_cons]

theorem mapMembers_eq (ms : Members) :
    mapMembers f ms = ms.map fun m => (m.1, mapNumbers f m.2) := by
  induction ms with
  | nil => rfl
  | cons m ms ih => rw [mapMembers, ih, List.map_cons]

end

theorem Occurs.fixed {f : Number → Number} {n : Number} {j : Json} (h : Occurs n j)
    (hj : j.mapNumbers f = j) : f n = n := by
  induction h with
  | here => exact Json.num.inj hj
  | item hmem _ ih =>
    rw [mapNumbers, mapItems_eq] at hj
    exact ih (List.map_inj_left.1 ((Json.arr.inj hj).trans (List.map_id _).symm) _ hmem)
  | member hmem _ ih =>
    rw [mapNumbers, mapMembers_eq] at hj
    have hm := List.map_inj_left.1 ((Json.obj.inj hj).trans (List.map_id _).symm) _ hmem
    exact ih (congrArg Prod.snd hm)

theorem WellFormed.of_occurs {j : Json} (h : j.WellFormed) (hn : j.Occurs n) :
    WellFormed (.num n) := by
  induction hn with
  | here => exact h
  | item hmem _ ih =>
    cases h with
    | arr hitems => exact ih (hitems _ hmem)
  | member hmem _ ih =>
    cases h with
    | obj _ hmembers => exact ih (hmembers _ hmem)

theorem WellFormed.mapNumbers_eq_iff {f : Number → Number} {j : Json} (h : j.WellFormed) :
    j.mapNumbers f = j ↔ ∀ n, j.Occurs n → f n = n := by
  refine ⟨fun hj n hn => hn.fixed hj, fun hf => ?_⟩
  induction h with
  | null | bool | str => rfl
  | int | float => exact congrArg Json.num (hf _ .here)
  | arr _ ih =>
    rw [mapNumbers, mapItems_eq]
    refine congrArg Json.arr ((List.map_congr_left fun j hj => ?_).trans (List.map_id _))
    exact ih j hj fun n hn => hf n (.item hj hn)
  | obj _ _ ih =>
    rw [mapNumbers, mapMembers_eq]
    refine congrArg Json.obj ((List.map_congr_left fun m hm => ?_).trans (List.map_id _))
    exact Prod.ext rfl (ih m hm fun n hn => hf n (.member hm hn))

end Json

namespace Bolt

-- ---------------------------------------------------------------------------
-- Lists and maps
-- ---------------------------------------------------------------------------

theorem ofItems_eq (items : List Json) : ofItems items = items.map ofJson := by
  induction items with
  | nil => rfl
  | cons j js ih => rw [ofItems, ih, List.map_cons]

theorem ofMembers_eq (ms : Json.Members) : ofMembers ms = ms.map fun m => (m.1, ofJson m.2) := by
  induction ms with
  | nil => rfl
  | cons m ms ih => rw [ofMembers, ih, List.map_cons]

theorem toItems_eq (values : List Value) : toItems values = values.map toJson := by
  induction values with
  | nil => rfl
  | cons v vs ih => rw [toItems, ih, List.map_cons]

theorem toMembers_eq {entries : List (String × Value)} {acc : Json.Members}
    (h : (acc.map (·.1) ++ entries.map (·.1)).Pairwise (· < ·)) :
    toMembers entries acc = acc ++ entries.map fun e => (e.1, toJson e.2) := by
  induction entries generalizing acc with
  | nil => rw [toMembers, List.map_nil, List.append_nil]
  | cons e entries ih =>
    obtain ⟨key, v⟩ := e
    have hlast : ∀ name ∈ acc.map (·.1), name < key := fun name hname =>
      (List.pairwise_append.1 h).2.2 name hname key List.mem_cons_self
    rw [toMembers, Json.Members.insert_of_lt hlast, ih (by simpa using h), List.map_cons,
      List.append_assoc, List.singleton_append]

-- ---------------------------------------------------------------------------
-- Numbers
-- ---------------------------------------------------------------------------

/-- What a number is read as after it was sent. -/
def returned : Json.Number → Json.Number
  | .int n => if n ≤ maxInt64 then .int n else .float (.ofInt n)
  | .float x => .float x

theorem returned_int_eq_iff : returned (.int n) = .int n ↔ n ≤ maxInt64 := by
  unfold returned
  split <;> simp_all

/-- An integer beyond the range is read as a float of a whole value near it. -/
theorem ofInt_beyond {n : Int} (hlow : maxInt64 < n) (hhigh : n ≤ maxNat64) :
    (Binary64.ofInt n).isFinite = true ∧
      ∃ m : Nat, (Binary64.ofInt n).quotient = (m, 1) ∧ (m - n).natAbs ≤ 1024 := by
  have hlog : n.natAbs.log2 = 63 := by
    unfold maxInt64 at hlow
    unfold maxNat64 at hhigh
    rw [Nat.log2_eq_iff (by omega)]
    omega
  have hunit : Binary64.unit n.natAbs = 2048 := by
    rw [Binary64.unit, hlog]
  obtain ⟨hfinite, m, hm, hbelow, habove⟩ :=
    Binary64.ofInt_near (n := n) (by omega) (by omega)
  refine ⟨hfinite, m, hm, ?_⟩
  unfold maxInt64 at hlow
  omega

theorem toJson_ofNumber_int {n : Int} (hlow : minInt64 ≤ n) (hhigh : n ≤ maxNat64) :
    toJson (ofNumber (.int n)) = .num (returned (.int n)) := by
  by_cases hn : n ≤ maxInt64
  · have hint : (Int64.ofInt n).toInt = n :=
      Int64.toInt_ofInt_of_le hlow (by unfold maxInt64 at hn; omega)
    rw [ofNumber, if_pos ⟨hlow, hn⟩, toJson, hint, returned, if_pos hn, Json.int]
  · have hfinite := (ofInt_beyond (Int.not_le.1 hn) hhigh).1
    rw [ofNumber, if_neg fun h => hn h.2, toJson, floatJson, if_pos hfinite, returned, if_neg hn,
      Json.float]

-- ---------------------------------------------------------------------------
-- Whole values
-- ---------------------------------------------------------------------------

theorem toJson_ofJson {j : Json} (h : j.WellFormed) :
    toJson (ofJson j) = j.mapNumbers returned := by
  induction h with
  | null | bool | str => rfl
  | int hlow hhigh => exact toJson_ofNumber_int hlow hhigh
  | float hfinite => exact if_pos hfinite
  | arr _ ih =>
    rw [ofJson, ofItems_eq, toJson, toItems_eq, List.map_map, Json.mapNumbers, Json.mapItems_eq]
    exact congrArg Json.arr (List.map_congr_left ih)
  | obj hsorted _ ih =>
    rw [ofJson, ofMembers_eq, toJson, toMembers_eq, Json.mapNumbers, Json.mapMembers_eq]
    · refine congrArg Json.obj (List.map_map.trans (List.map_congr_left fun m hm => ?_))
      exact Prod.ext rfl (ih m hm)
    · simpa [Json.Members.Sorted, Function.comp_def] using hsorted

/-- A value that was sent is read with the same structure and the same keys, and each integer that
fits 64 bits with a sign as itself. Another one is read as a float of a whole value no more than
1024 away, so that only values without such integers stay as they are. -/
theorem sent_value_returns {j : Json} (h : j.WellFormed) :
    toJson (ofJson j) = j.mapNumbers returned ∧
      (toJson (ofJson j) = j ↔ ∀ n, j.Occurs (.int n) → n ≤ maxInt64) ∧
      ∀ n, j.Occurs (.int n) → maxInt64 < n →
        ∃ m : Nat, (Binary64.ofInt n).quotient = (m, 1) ∧ (m - n).natAbs ≤ 1024 := by
  refine ⟨toJson_ofJson h, ?_, fun n hn hbeyond => ?_⟩
  · rw [toJson_ofJson h, h.mapNumbers_eq_iff]
    constructor
    · exact fun hfixed n hn => returned_int_eq_iff.1 (hfixed _ hn)
    · rintro hfits (n | x) hn
      · exact returned_int_eq_iff.2 (hfits n hn)
      · rfl
  · cases h.of_occurs hn with
    | int _ hhigh => exact (ofInt_beyond hbeyond hhigh).2

def properties : Json :=
  .obj [("height", .float ⟨0x3FF8000000000000⟩), ("ranks", .arr [.int (-1), .int maxInt64]),
    ("tags", .arr [.str "graph", .null]), ("visits", .nat maxNat64)]

theorem properties_return : properties.WellFormed ∧ toJson (ofJson properties) =
    .obj [("height", .float ⟨0x3FF8000000000000⟩), ("ranks", .arr [.int (-1), .int maxInt64]),
      ("tags", .arr [.str "graph", .null]), ("visits", .float ⟨0x43F0000000000000⟩)] := by
  have hproperties : properties.WellFormed := by
    refine .obj (by decide) ?_
    simp only [List.forall_mem_cons]
    refine ⟨.float (by decide), .arr ?_, .arr ?_, .int (by decide) (by decide),
      List.forall_mem_nil _⟩
    · simp only [List.forall_mem_cons]
      exact ⟨.int (by decide) (by decide), .int (by decide) (by decide), List.forall_mem_nil _⟩
    · simp only [List.forall_mem_cons]
      exact ⟨.str _, .null, List.forall_mem_nil _⟩
  exact ⟨hproperties, (sent_value_returns hproperties).1⟩

/-- The greatest integer that JSON has here is read as the power of two after it. -/
theorem greatest_integer_returns_as_float : (Json.nat maxNat64).WellFormed ∧
    toJson (ofJson (.nat maxNat64)) = .float ⟨0x43F0000000000000⟩ ∧
    toJson (ofJson (.nat maxNat64)) ≠ .nat maxNat64 :=
  ⟨.int (by decide) (by decide), rfl, nofun⟩

end Bolt

end KnowledgeGraph
