import KnowledgeGraph.Error

/-!
# Objects

What is kept under a bucket and a key: bytes and their content type. A store in memory holds at
most one object under each pair, in the order of the pairs.
-/

namespace KnowledgeGraph.Asset

structure Object where
  bytes : ByteArray
  contentType : String
  deriving Inhabited

structure Store where
  entries : List ((String × String) × Object)

namespace Store

def empty : Store := ⟨[]⟩

def precedes (a b : String × String) : Bool := a.1 < b.1 || (a.1 == b.1 && a.2 < b.2)

def insertEntry (place : String × String) (o : Object) :
    List ((String × String) × Object) → List ((String × String) × Object)
  | [] => [(place, o)]
  | (p, x) :: rest =>
    if p = place then (place, o) :: rest
    else if precedes place p then (place, o) :: (p, x) :: rest
    else (p, x) :: insertEntry place o rest

def put (s : Store) (bucket key : String) (o : Object) : Store :=
  ⟨insertEntry (bucket, key) o s.entries⟩

def find? (place : String × String) : List ((String × String) × Object) → Option Object
  | [] => none
  | (p, x) :: rest => if p = place then some x else find? place rest

def get? (s : Store) (bucket key : String) : Option Object := find? (bucket, key) s.entries

theorem find?_insertEntry (place other : String × String) (o : Object)
    (es : List ((String × String) × Object)) :
    find? other (insertEntry place o es) = if place = other then some o else find? other es := by
  induction es with
  | nil => simp [insertEntry, find?]
  | cons e es ih =>
    obtain ⟨p, x⟩ := e
    simp only [insertEntry]
    split
    · next h => subst h; by_cases h' : p = other <;> simp [find?, h']
    · split
      · simp [find?]
      · next hne _ =>
        by_cases hk : p = other
        · subst hk; simp [find?, Ne.symm hne]
        · simp [find?, hk, ih]

theorem get?_put (s : Store) (bucket key bucket' key' : String) (o : Object) :
    (s.put bucket key o).get? bucket' key' =
      if bucket = bucket' ∧ key = key' then some o else s.get? bucket' key' := by
  simp [put, get?, find?_insertEntry]

end Store

end KnowledgeGraph.Asset
