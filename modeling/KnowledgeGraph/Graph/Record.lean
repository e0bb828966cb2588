import KnowledgeGraph.Wire.Shape

/-!
# Records

A row of an answer: values under column names. When a name occurs twice, the first counts; a
name without a value has none.
-/

namespace KnowledgeGraph.Graph

structure Record where
  keys : List String
  values : List Json
  deriving Inhabited

namespace Record

instance : Wire.Writable Record where
  fields := .cons "Keys" .required (.list .text) <| .cons "Values" .required (.list .any) .nil
  ofMeaning := fun (keys, values, _) => ⟨keys, values⟩
  toMeaning := fun r => (r.keys, r.values, ())

def ofPairs (pairs : List (String × Json)) : Record :=
  ⟨pairs.map (·.1), pairs.map (·.2)⟩

def get? (r : Record) (key : String) : Option Json := do
  r.values[← r.keys.findIdx? (· == key)]?

def update (r : Record) (key : String) (f : Json → Json) : Record :=
  match r.keys.findIdx? (· == key) with
  | some i => ⟨r.keys, r.values.modify i f⟩
  | none => r

theorem get?_mk_cons (key : String) (keys : List String) (values : List Json) (name : String) :
    get? ⟨key :: keys, values⟩ name =
      if key = name then values[0]? else get? ⟨keys, values.tail⟩ name := by
  simp only [get?, List.findIdx?_cons, beq_iff_eq]
  split
  · rfl
  · cases values <;> exact Option.bind_map

theorem get?_ofPairs (pairs : List (String × Json)) (name : String) :
    (ofPairs pairs).get? name = pairs.lookup name := by
  induction pairs with
  | nil => rfl
  | cons p pairs ih =>
    rw [ofPairs, List.map_cons, List.map_cons, get?_mk_cons, List.lookup_cons]
    by_cases h : name = p.1
    · subst h
      rw [if_pos rfl, beq_self_eq_true]
      rfl
    · rw [if_neg (Ne.symm h), beq_false_of_ne h]
      exact ih

def str? (r : Record) (key : String) : Option String := (r.get? key).bind Json.str?
def float? (r : Record) (key : String) : Option Binary64 := (r.get? key).bind Json.float?
def int64? (r : Record) (key : String) : Option Int := (r.get? key).bind Json.int64?

end Record

end KnowledgeGraph.Graph
