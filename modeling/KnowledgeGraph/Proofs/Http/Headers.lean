import KnowledgeGraph.Http.Client
import KnowledgeGraph.Http.Message
import KnowledgeGraph.Proofs.Text.Utf8

/-!
# Headers of an answer

Giving a name its value leaves the values of other names as they are. The id of a request is one
that may be sent as a value, whoever chose it.
-/

namespace KnowledgeGraph.Http

def Headers.values (hs : Headers) (name : String) : List (List UInt8) :=
  (hs.filter (·.1 = name)).map (·.2)

theorem Headers.values_set_self (hs : Headers) (name : String) (value : List UInt8) :
    (hs.set name value).values name = [value] := by
  have hnone : (hs.filter (·.1 ≠ name)).filter (·.1 = name) = [] := by
    simp [List.filter_filter]
  rw [values, set, List.filter_append, hnone]
  simp

theorem Headers.values_set_of_ne {name other : String} (h : other ≠ name) (hs : Headers)
    (value : List UInt8) : (hs.set name value).values other = hs.values other := by
  have hkept : (hs.filter (·.1 ≠ name)).filter (·.1 = other) = hs.filter (·.1 = other) := by
    rw [List.filter_filter]
    refine List.filter_congr fun p _ => ?_
    by_cases hp : p.1 = other
    · simp [hp, h]
    · simp [hp]
  rw [values, set, List.filter_append, hkept]
  simp [values, Ne.symm h]

def Headers.without (hs : Headers) (name : String) : Headers := hs.filter (·.1 ≠ name)

theorem Headers.without_set_self (hs : Headers) (name : String) (value : List UInt8) :
    (hs.set name value).without name = hs.without name := by
  simp [without, set, List.filter_append, List.filter_filter]

theorem Headers.without_set_of_ne {name other : String} (h : other ≠ name) (hs : Headers)
    (value : List UInt8) :
    (hs.set other value).without name = (hs.without name).set other value := by
  simp [without, set, h, List.filter_filter, Bool.and_comm]

theorem visible?_append {t u : String} (ht : visible? a = some t) (hu : visible? b = some u) :
    visible? (a ++ b) = some (t ++ u) := by
  unfold visible? at ht hu ⊢
  split at ht
  · next ha =>
    split at hu
    · next hb =>
      cases ht
      cases hu
      rw [List.all_append, ha, hb, List.map_append, String.ofList_append]
      rfl
    · cases hu
  · cases ht

namespace Response

theorem values_withText_self (res : Response) (name value : String) :
    (res.withText name value).headers.values name = [Text.Utf8.bytes value] :=
  Headers.values_set_self ..

theorem values_withText_of_ne {name other : String} (h : other ≠ name) (res : Response)
    (value : String) : (res.withText name value).headers.values other = res.headers.values other :=
  Headers.values_set_of_ne h ..

end Response

-- ---------------------------------------------------------------------------
-- Ids
-- ---------------------------------------------------------------------------

theorem isAcceptableId_ofList {cs : List Char} (hne : cs ≠ [])
    (hlength : cs.length ≤ maxRequestIdLength) (h : ∀ c ∈ cs, '!' ≤ c ∧ c ≤ '~') :
    isAcceptableId (String.ofList cs) = true := by
  have hascii : ∀ c ∈ cs, c.toNat < 128 := fun c hc => Nat.lt_of_le_of_lt (h c hc).2 (by decide)
  have hsize : (String.ofList cs).utf8ByteSize = cs.length := by
    rw [← Text.Utf8.length_bytes, Text.Utf8.bytes_ofList_ascii hascii, List.length_map]
  have hnonempty : (String.ofList cs).isEmpty = false := by
    cases cs with
    | nil => exact absurd rfl hne
    | cons c cs => simp
  simp only [isAcceptableId, hnonempty, hsize, Bool.not_false, Bool.true_and, Bool.and_eq_true,
    decide_eq_true_eq, String.toList_ofList, List.all_eq_true]
  exact ⟨hlength, h⟩

theorem forall_mem_hexDigits (b : UInt8) : ∀ c ∈ hexDigits b, '!' ≤ c ∧ c ≤ '~' := by
  have hdigit : ∀ n < 16, '!' ≤ Nat.digitChar n ∧ Nat.digitChar n ≤ '~' := by decide
  refine List.forall_mem_cons.mpr ⟨?_, List.forall_mem_singleton.mpr ?_⟩
  · exact hdigit _ (Nat.div_lt_of_lt_mul b.toNat_lt)
  · exact hdigit _ (Nat.mod_lt _ (by decide))

theorem isAcceptableId_idOfBytes (bytes : List UInt8) :
    isAcceptableId (idOfBytes bytes) = true := by
  refine isAcceptableId_ofList ?_ ?_ ?_
  · simp [List.intercalate, hexDigits]
  · simp [List.intercalate, hexDigits, maxRequestIdLength]
  · simp only [List.intercalate, List.intersperse, List.flatten_cons, List.flatten_nil,
      List.flatMap_cons, List.flatMap_nil, List.append_nil, List.forall_mem_append,
      List.forall_mem_singleton]
    and_intros <;> first | exact forall_mem_hexDigits _ | decide

/-- The id of a request may be sent back. -/
theorem isAcceptableId_requestId (incoming : Option String) (bytes : List UInt8) (c : String) :
    isAcceptableId (Context.ofRequest incoming (idOfBytes bytes) c).requestId = true := by
  rcases h : (incoming.map Text.trim).filter isAcceptableId with _ | id
  · simp only [Context.ofRequest, h]
    exact isAcceptableId_idOfBytes bytes
  · simp only [Context.ofRequest, h]
    exact (Option.filter_eq_some_iff.mp h).2

end KnowledgeGraph.Http
