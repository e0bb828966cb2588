import KnowledgeGraph.Digest.Base64
import KnowledgeGraph.Proofs.Outcome
import KnowledgeGraph.Proofs.Text.Utf8

/-!
# Base64 reads back

Each alphabet in use tells 64 characters apart, all of them ASCII and none the padding. What is
written in such an alphabet is read as the bytes it stands for. What can be read holds nothing but
its characters and the padding.
-/

namespace KnowledgeGraph.Base64

-- ---------------------------------------------------------------------------
-- What is written
-- ---------------------------------------------------------------------------

def sextets : List UInt8 → List Nat
  | [] => []
  | [a] => [a.toNat / 4, a.toNat % 4 * 16]
  | [a, b] =>
    let n := a.toNat * 256 + b.toNat
    [n / 1024, n / 16 % 64, n % 16 * 4]
  | a :: b :: c :: rest =>
    let n := a.toNat * 65536 + b.toNat * 256 + c.toNat
    n / 262144 :: n / 4096 % 64 :: n / 64 % 64 :: n % 64 :: sextets rest

theorem sextets_lt (bytes : List UInt8) : ∀ n ∈ sextets bytes, n < 64 := by
  induction bytes using sextets.induct with
  | case1 => simp [sextets]
  | case2 a =>
    have := a.toNat_lt
    simp [sextets]
    omega
  | case3 a b =>
    have := a.toNat_lt
    have := b.toNat_lt
    simp [sextets]
    omega
  | case4 a b c rest ih =>
    have := a.toNat_lt
    have := b.toNat_lt
    have := c.toNat_lt
    simp only [sextets, List.forall_mem_cons]
    exact ⟨by omega, by omega, by omega, by omega, ih⟩

theorem sextets_ne_nil {bytes : List UInt8} (h : bytes ≠ []) : sextets bytes ≠ [] := by
  match bytes with
  | [_] | [_, _] | _ :: _ :: _ :: _ => simp [sextets]

theorem length_sextets_ne (bytes : List UInt8) : (sextets bytes).length % 4 ≠ 1 := by
  induction bytes using sextets.induct with
  | case1 => decide
  | case2 a => simp [sextets]
  | case3 a b => simp [sextets]
  | case4 a b c rest ih =>
    simp only [sextets, List.length_cons]
    omega

/-- How much padding follows so many characters. -/
def Variant.missing (v : Variant) (count : Nat) : Nat :=
  if v.padded then (4 - count % 4) % 4 else 0

theorem Variant.missing_add_four (v : Variant) (count : Nat) :
    v.missing (count + 4) = v.missing count := by
  simp [missing]

theorem Variant.encode_eq (v : Variant) (bytes : List UInt8) :
    v.encode bytes = (sextets bytes).map v.char ++
      List.replicate (v.missing (sextets bytes).length) '=' := by
  induction bytes using sextets.induct with
  | case1 => simp [sextets, encode, missing]
  | case2 a => cases h : v.padded <;> simp [sextets, encode, missing, h]
  | case3 a b => cases h : v.padded <;> simp [sextets, encode, missing, h]
  | case4 a b c rest ih =>
    simp only [sextets, encode, ih, List.map_cons, List.length_cons, List.cons_append]
    rw [v.missing_add_four]

/-- What holds of all characters of an alphabet, and of the padding if there is any, holds of all
that is written. -/
theorem Variant.forall_mem_encode {v : Variant} {p : Char → Prop}
    (hchar : ∀ n < 64, p (v.char n)) (hpad : v.padded → p '=') (bytes : List UInt8) :
    ∀ c ∈ v.encode bytes, p c := by
  intro c hc
  rw [encode_eq, List.mem_append, List.mem_map] at hc
  rcases hc with ⟨n, hn, rfl⟩ | hc
  · exact hchar n (sextets_lt bytes n hn)
  · obtain ⟨hne, rfl⟩ := List.mem_replicate.1 hc
    refine hpad ?_
    by_contra h
    exact hne (by simp [missing, h])

-- ---------------------------------------------------------------------------
-- Alphabets
-- ---------------------------------------------------------------------------

structure Variant.IsProper (v : Variant) : Prop where
  ascii : ∀ n < 64, (v.char n).toNat < 128
  value?_char : ∀ n < 64, v.value? (v.char n).toUInt8 = some n
  ne_padding : ∀ n < 64, (v.char n).toUInt8 ≠ padByte

theorem isProper_urlSafe : urlSafe.IsProper := ⟨by decide, by decide, by decide⟩

-- ---------------------------------------------------------------------------
-- Reading
-- ---------------------------------------------------------------------------

def Variant.spell (v : Variant) (ns : List Nat) : List UInt8 :=
  ns.map (fun n => (v.char n).toUInt8) ++ List.replicate (v.missing ns.length) padByte

theorem ofNat_eq_of_mod {n : Nat} {b : UInt8} (h : n % 256 = b.toNat) : UInt8.ofNat n = b := by
  rw [← UInt8.toNat_inj, UInt8.toNat_ofNat']
  exact h

section
variable {v : Variant}

theorem length_spell (ns : List Nat) : (v.spell ns).length = ns.length + v.missing ns.length := by
  simp [Variant.spell]

theorem length_spell_le {ns : List Nat} (h : ns.length ≤ 4) : (v.spell ns).length ≤ 4 := by
  rw [length_spell, Variant.missing]
  split <;> omega

theorem spell_cons (w x y z : Nat) (ns : List Nat) :
    v.spell (w :: x :: y :: z :: ns) = (v.char w).toUInt8 :: (v.char x).toUInt8 ::
      (v.char y).toUInt8 :: (v.char z).toUInt8 :: v.spell ns := by
  simp only [Variant.spell, List.map_cons, List.length_cons, List.cons_append]
  rw [v.missing_add_four]

theorem decodeFrom_of_length_le {bytes : List UInt8} (h : bytes.length ≤ 4) (offset : Nat) :
    v.decodeFrom offset bytes = v.tail offset bytes := by
  match bytes with
  | [] | [_] | [_, _] | [_, _, _] | [_, _, _, _] => rw [Variant.decodeFrom]; simp
  | _ :: _ :: _ :: _ :: _ :: _ =>
    simp only [List.length_cons] at h
    omega

variable (hv : v.IsProper)
include hv

theorem bytes_encode (bytes : List UInt8) :
    Text.Utf8.bytes (String.ofList (v.encode bytes)) = v.spell (sextets bytes) := by
  rw [Text.Utf8.bytes_ofList_ascii (v.forall_mem_encode hv.ascii (fun _ => by decide) bytes),
    v.encode_eq, List.map_append, List.map_map, List.map_replicate]
  rfl

theorem values_chars {ns : List Nat} (h : ∀ n ∈ ns, n < 64) (offset : Nat) :
    v.values offset (ns.map fun n => (v.char n).toUInt8) = .ok ns := by
  induction ns generalizing offset with
  | nil => rfl
  | cons n ns ih =>
    rw [List.map_cons, Variant.values, hv.value?_char n (h n List.mem_cons_self)]
    dsimp only
    rw [ih fun m hm => h m (List.mem_cons_of_mem n hm)]
    rfl

theorem takeWhile_spell {ns : List Nat} (h : ∀ n ∈ ns, n < 64) :
    (v.spell ns).takeWhile (· ≠ padByte) = ns.map fun n => (v.char n).toUInt8 := by
  rw [Variant.spell, List.takeWhile_append_of_pos]
  · cases v.missing ns.length <;> simp [List.replicate_succ]
  · intro b hb
    obtain ⟨n, hn, rfl⟩ := List.mem_map.1 hb
    simpa using hv.ne_padding n (h n hn)

theorem tail_two {x y : Nat} (hx : x < 64) (hy : y < 64) (hlow : y % 16 = 0) (offset : Nat) :
    v.tail offset (v.spell [x, y]) = .ok [UInt8.ofNat (x * 4 + y / 16)] := by
  have h : ∀ n ∈ [x, y], n < 64 := by simp [hx, hy]
  simp only [Variant.tail, takeWhile_spell hv h, values_chars hv h]
  cases hp : v.padded <;>
    simp [Variant.spell, Variant.missing, hp, hlow, bind, Except.bind, pure, Except.pure,
      -UInt8.ofNat_add, -UInt8.ofNat_mul]

theorem tail_three {x y z : Nat} (hx : x < 64) (hy : y < 64) (hz : z < 64) (hlow : z % 4 = 0)
    (offset : Nat) :
    v.tail offset (v.spell [x, y, z]) =
      .ok [UInt8.ofNat (x * 4 + y / 16), UInt8.ofNat (y % 16 * 16 + z / 4)] := by
  have h : ∀ n ∈ [x, y, z], n < 64 := by simp [hx, hy, hz]
  simp only [Variant.tail, takeWhile_spell hv h, values_chars hv h]
  cases hp : v.padded <;>
    simp [Variant.spell, Variant.missing, hp, hlow, bind, Except.bind, pure, Except.pure,
      -UInt8.ofNat_add, -UInt8.ofNat_mul]

theorem tail_four {w x y z : Nat} (hw : w < 64) (hx : x < 64) (hy : y < 64) (hz : z < 64)
    (offset : Nat) :
    v.tail offset (v.spell [w, x, y, z]) =
      .ok [UInt8.ofNat (w * 4 + x / 16), UInt8.ofNat (x % 16 * 16 + y / 4),
        UInt8.ofNat (y % 4 * 64 + z)] := by
  have h : ∀ n ∈ [w, x, y, z], n < 64 := by simp [hw, hx, hy, hz]
  simp only [Variant.tail, takeWhile_spell hv h, values_chars hv h]
  cases hp : v.padded <;>
    simp [Variant.spell, Variant.missing, hp, bind, Except.bind, pure, Except.pure,
      -UInt8.ofNat_add, -UInt8.ofNat_mul]

/-- Four characters with more behind them stand for three bytes. -/
theorem decodeFrom_spell_cons {w x y z : Nat} (hw : w < 64) (hx : x < 64) (hy : y < 64)
    (hz : z < 64) {ns : List Nat} (hns : ns ≠ []) {offset : Nat} {bytes : List UInt8}
    (h : v.decodeFrom (offset + 4) (v.spell ns) = .ok bytes) :
    v.decodeFrom offset (v.spell (w :: x :: y :: z :: ns)) =
      .ok (UInt8.ofNat ((((w * 64 + x) * 64 + y) * 64 + z) / 65536) ::
        UInt8.ofNat ((((w * 64 + x) * 64 + y) * 64 + z) / 256) ::
        UInt8.ofNat (((w * 64 + x) * 64 + y) * 64 + z) :: bytes) := by
  obtain ⟨n, ns, rfl⟩ := List.exists_cons_of_ne_nil hns
  have h' : ∀ n ∈ [w, x, y, z], n < 64 := by simp [hw, hx, hy, hz]
  have hvalues := values_chars hv h' offset
  simp only [List.map_cons, List.map_nil] at hvalues
  rw [spell_cons]
  rw [Variant.spell, List.map_cons, List.cons_append] at h ⊢
  rw [Variant.decodeFrom, hvalues, h]
  simp [bind, Except.bind, pure, Except.pure]

theorem decodeFrom_spell (bytes : List UInt8) (offset : Nat) :
    v.decodeFrom offset (v.spell (sextets bytes)) = .ok bytes := by
  induction bytes using sextets.induct generalizing offset with
  | case1 => cases h : v.padded <;> simp [sextets, Variant.spell, Variant.missing] <;> rfl
  | case2 a =>
    have ha := a.toNat_lt
    rw [sextets, decodeFrom_of_length_le (length_spell_le (by simp)),
      tail_two hv (by omega) (by omega) (by omega), ofNat_eq_of_mod (b := a) (by omega)]
  | case3 a b =>
    have ha := a.toNat_lt
    have hb := b.toNat_lt
    rw [sextets, decodeFrom_of_length_le (length_spell_le (by simp)),
      tail_three hv (by omega) (by omega) (by omega) (by omega),
      ofNat_eq_of_mod (b := a) (by omega), ofNat_eq_of_mod (b := b) (by omega)]
  | case4 a b c rest ih =>
    have ha := a.toNat_lt
    have hb := b.toNat_lt
    have hc := c.toNat_lt
    rw [sextets]
    by_cases hrest : rest = []
    · subst hrest
      rw [sextets, decodeFrom_of_length_le (length_spell_le (by simp)),
        tail_four hv (by omega) (by omega) (by omega) (by omega),
        ofNat_eq_of_mod (b := a) (by omega), ofNat_eq_of_mod (b := b) (by omega),
        ofNat_eq_of_mod (b := c) (by omega)]
    · rw [decodeFrom_spell_cons hv (by omega) (by omega) (by omega) (by omega)
          (sextets_ne_nil hrest) (ih _), ofNat_eq_of_mod (b := a) (by omega),
        ofNat_eq_of_mod (b := b) (by omega), ofNat_eq_of_mod (b := c) (by omega)]

theorem decode_encode (bytes : List UInt8) :
    v.decode (Text.Utf8.bytes (String.ofList (v.encode bytes))) = .ok bytes := by
  have hlength : (v.spell (sextets bytes)).length % 4 ≠ 1 := by
    have hne := length_sextets_ne bytes
    rw [length_spell, Variant.missing]
    split <;> omega
  rw [bytes_encode hv, Variant.decode]
  split
  · next heq _ => exact absurd heq hlength
  · exact decodeFrom_spell hv bytes 0

end

-- ---------------------------------------------------------------------------
-- What can be read
-- ---------------------------------------------------------------------------

/-- What may stand in a text that is read: the characters of the alphabet, and the padding. -/
def Variant.Admits (v : Variant) (b : UInt8) : Prop := (v.value? b).isSome = true ∨ b = padByte

section
variable {v : Variant}

theorem isSome_of_values {offset : Nat} {bytes : List UInt8} {ns : List Nat}
    (h : v.values offset bytes = .ok ns) : ∀ b ∈ bytes, (v.value? b).isSome = true := by
  induction bytes generalizing offset ns with
  | nil => exact List.forall_mem_nil _
  | cons b bytes ih =>
    unfold Variant.values at h
    split at h
    · cases h
    · next n hn =>
      obtain ⟨ns, hns, -⟩ := map_eq_ok_iff.1 h
      exact List.forall_mem_cons.2 ⟨by rw [hn]; rfl, ih hns⟩

theorem admits_of_tail {offset : Nat} {bytes out : List UInt8}
    (h : v.tail offset bytes = .ok out) : ∀ b ∈ bytes, v.Admits b := by
  unfold Variant.tail at h
  obtain ⟨ns, hns, h⟩ := bind_eq_ok_iff.1 h
  extract_lets _ _ _ _ afterCount at h
  have hpadding : ∀ b ∈ bytes.drop (bytes.takeWhile (· ≠ padByte)).length, b = padByte := by
    by_contra hother
    have hany : (bytes.drop (bytes.takeWhile (· ≠ padByte)).length).any (· ≠ padByte) = true := by
      simpa using hother
    split at h
    · cases h
    · simp only [afterCount, if_pos hany] at h
      cases h
  intro b hb
  rw [← List.take_append_drop (bytes.takeWhile (· ≠ padByte)).length bytes, List.mem_append] at hb
  rcases hb with hb | hb
  · rw [← List.prefix_iff_eq_take.1 (List.takeWhile_prefix _)] at hb
    exact .inl (isSome_of_values hns b hb)
  · exact .inr (hpadding b hb)

theorem admits_of_decodeFrom {offset : Nat} {text out : List UInt8}
    (h : v.decodeFrom offset text = .ok out) : ∀ b ∈ text, v.Admits b := by
  fun_induction Variant.decodeFrom v offset text generalizing out with
  | case1 offset a b c d e rest ih =>
    obtain ⟨ns, hns, h⟩ := bind_eq_ok_iff.1 h
    obtain ⟨after, hafter, -⟩ := bind_eq_ok_iff.1 h
    intro x hx
    rcases List.mem_append.1 (show x ∈ [a, b, c, d] ++ e :: rest from hx) with hx | hx
    · exact .inl (isSome_of_values hns x hx)
    · exact ih hafter x hx
  | case2 offset bytes hne => exact admits_of_tail h

/-- Whatever can be read is made of the characters of the alphabet and the padding. -/
theorem admits_of_decode {text out : List UInt8} (h : v.decode text = .ok out) :
    ∀ b ∈ text, v.Admits b := by
  unfold Variant.decode at h
  split at h
  · split at h
    · cases h
    · exact admits_of_decodeFrom h
  · exact admits_of_decodeFrom h

end

end KnowledgeGraph.Base64
