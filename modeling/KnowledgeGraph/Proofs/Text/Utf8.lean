import Mathlib.Tactic.IntervalCases
import KnowledgeGraph.Text.Utf8

/-!
# UTF-8 reads back

The bytes of a text are read as its characters.
-/

namespace KnowledgeGraph.Text.Utf8

-- ---------------------------------------------------------------------------
-- The bytes of a text
-- ---------------------------------------------------------------------------

theorem toList_loop (b : ByteArray) (i : Nat) (acc : List UInt8) :
    ByteArray.toList.loop b i acc = acc.reverse ++ b.data.toList.drop i := by
  fun_induction ByteArray.toList.loop b i acc with
  | case1 i acc h ih =>
    have hget : b.data.toList.drop i = b.get! i :: b.data.toList.drop (i + 1) := by
      rw [List.drop_eq_getElem_cons (by simpa using h)]
      simp [ByteArray.get!, h]
    rw [ih, hget, List.reverse_cons, List.append_assoc, List.singleton_append]
  | case2 i acc h =>
    rw [List.drop_eq_nil_of_le (by simpa using Nat.le_of_not_lt h), List.append_nil]

theorem length_toList (b : ByteArray) : b.toList.length = b.size := by
  rw [ByteArray.toList, toList_loop]
  exact Array.length_toList

theorem length_bytes (s : String) : (bytes s).length = s.utf8ByteSize := by
  exact length_toList _

theorem bytes_ofList (cs : List Char) :
    bytes (String.ofList cs) = cs.flatMap String.utf8EncodeChar := by
  show ByteArray.toList.loop _ 0 [] = _
  rw [toList_loop]
  exact List.toList_data_toByteArray

theorem bytes_ofList_ascii {cs : List Char} (h : ∀ c ∈ cs, c.toNat < 128) :
    bytes (String.ofList cs) = cs.map Char.toUInt8 := by
  rw [bytes_ofList]
  induction cs with
  | nil => rfl
  | cons c cs ih =>
    have hsize : c.utf8Size = 1 :=
      Char.utf8Size_eq_one_iff.2 (Nat.le_of_lt_succ (h c List.mem_cons_self))
    rw [List.flatMap_cons, String.utf8EncodeChar_eq_singleton hsize, List.singleton_append,
      List.map_cons, ih fun d hd => h d (List.mem_cons_of_mem c hd)]
    rfl

-- ---------------------------------------------------------------------------
-- Reading a character
-- ---------------------------------------------------------------------------

theorem lead?_two {n : Nat} (hlow : 0xC2 ≤ n) (hhigh : n ≤ 0xDF) :
    lead? (UInt8.ofNat n) = some ⟨1, 0x80, 0xBF, n - 0xC0⟩ := by
  interval_cases n <;> rfl

theorem lead?_three {n : Nat} (hlow : 0xE0 ≤ n) (hhigh : n ≤ 0xEF) :
    lead? (UInt8.ofNat n) = some ⟨2, if n = 0xE0 then 0xA0 else 0x80,
      if n = 0xED then 0x9F else 0xBF, n - 0xE0⟩ := by
  interval_cases n <;> rfl

theorem lead?_four {n : Nat} (hlow : 0xF0 ≤ n) (hhigh : n ≤ 0xF4) :
    lead? (UInt8.ofNat n) = some ⟨3, if n = 0xF0 then 0x90 else 0x80,
      if n = 0xF4 then 0x8F else 0xBF, n - 0xF0⟩ := by
  interval_cases n <;> rfl

theorem toNat_ofNat {n : Nat} (h : n < 256) : (UInt8.ofNat n).toNat = n := by
  rw [UInt8.toNat_ofNat']
  exact Nat.mod_eq_of_lt h

theorem follow_ofNat {n : Nat} (h : n < 64) (bits : Nat) :
    follow bits (UInt8.ofNat (n + 128)) = bits * 64 + n := by
  have hlt : n + 128 < 256 := by omega
  show bits * 64 + ((UInt8.ofNat (n + 128)).toNat - 0x80) = _
  rw [toNat_ofNat hlt, Nat.add_sub_cancel]

theorem isFollower_ofNat {n : Nat} (h : n < 64) : isFollower (UInt8.ofNat (n + 128)) = true := by
  interval_cases n <;> rfl

theorem not_lt_of_le {n : Nat} (hlow : 128 ≤ n) (hhigh : n < 256) : ¬ UInt8.ofNat n < 0x80 := by
  rw [UInt8.lt_iff_toNat_lt, toNat_ofNat hhigh]
  exact Nat.not_lt.mpr hlow

theorem between_ofNat {n : Nat} (hn : n < 256) {low high : UInt8} (hlow : low.toNat ≤ n)
    (hhigh : n ≤ high.toNat) : low ≤ UInt8.ofNat n ∧ UInt8.ofNat n ≤ high := by
  rw [UInt8.le_iff_toNat_le, UInt8.le_iff_toNat_le, toNat_ofNat hn]
  exact ⟨hlow, hhigh⟩

section
variable {a b c d : UInt8} {l : Lead} {rest : List UInt8}

theorem decode_two (ha : ¬ a < 0x80) (hl : lead? a = some l) (hmore : l.more = 1)
    (hb : l.low ≤ b ∧ b ≤ l.high) :
    decode (a :: b :: rest) = some (Char.ofNat (follow l.bits b)) :: decode rest := by
  rw [decode, if_neg ha, hl]
  simp [hmore, hb]

theorem decode_three (ha : ¬ a < 0x80) (hl : lead? a = some l) (hmore : l.more = 2)
    (hb : l.low ≤ b ∧ b ≤ l.high) (hc : isFollower c = true) :
    decode (a :: b :: c :: rest) =
      some (Char.ofNat (follow (follow l.bits b) c)) :: decode rest := by
  rw [decode, if_neg ha, hl]
  simp [hmore, hb, hc]

theorem decode_four (ha : ¬ a < 0x80) (hl : lead? a = some l) (hmore : l.more = 3)
    (hb : l.low ≤ b ∧ b ≤ l.high) (hc : isFollower c = true) (hd : isFollower d = true) :
    decode (a :: b :: c :: d :: rest) =
      some (Char.ofNat (follow (follow (follow l.bits b) c) d)) :: decode rest := by
  rw [decode, if_neg ha, hl]
  simp [hmore, hb, hc, hd]

end

theorem decode_utf8EncodeChar_append (c : Char) (rest : List UInt8) :
    decode (String.utf8EncodeChar c ++ rest) = some c :: decode rest := by
  have hvalid : c.toNat < 0xD800 ∨ 0xDFFF < c.toNat ∧ c.toNat < 0x110000 := c.valid
  have hchar : some c = some (Char.ofNat c.toNat) := by rw [Char.ofNat_toNat]
  rw [hchar]
  unfold String.utf8EncodeChar
  rw [show c.val.toNat = c.toNat from rfl]
  generalize c.toNat = n at hvalid
  dsimp only
  split
  · rename_i h
    have hlt : UInt8.ofNat n < 0x80 := by
      rw [UInt8.lt_iff_toNat_lt, toNat_ofNat (by omega)]
      exact Nat.lt_succ_of_le h
    rw [List.singleton_append, decode, if_pos hlt, toNat_ofNat (by omega)]
  split
  · have hlead := lead?_two (n := n / 64 % 32 + 192) (by omega) (by omega)
    have hb : (0x80 : UInt8) ≤ UInt8.ofNat (n % 64 + 128) ∧ UInt8.ofNat (n % 64 + 128) ≤ 0xBF :=
      between_ofNat (by omega) (by simp) (by simp; omega)
    rw [List.cons_append, List.singleton_append,
      decode_two (not_lt_of_le (by omega) (by omega)) hlead rfl hb, follow_ofNat (by omega)]
    congr 3
    dsimp only
    omega
  split
  · have hlead := lead?_three (n := n / 4096 % 16 + 224) (by omega) (by omega)
    -- The ranges of the second byte leave out what has a shorter form, and the surrogates.
    have hb : (if n / 4096 % 16 + 224 = 0xE0 then 0xA0 else 0x80) ≤
          UInt8.ofNat (n / 64 % 64 + 128) ∧
        UInt8.ofNat (n / 64 % 64 + 128) ≤ if n / 4096 % 16 + 224 = 0xED then 0x9F else 0xBF := by
      refine between_ofNat (by omega) ?_ ?_ <;> split <;> simp <;> omega
    rw [List.cons_append, List.cons_append, List.singleton_append,
      decode_three (not_lt_of_le (by omega) (by omega)) hlead rfl hb (isFollower_ofNat (by omega)),
      follow_ofNat (by omega), follow_ofNat (by omega)]
    congr 3
    dsimp only
    omega
  · have hlead := lead?_four (n := n / 262144 % 8 + 240) (by omega) (by omega)
    have hb : (if n / 262144 % 8 + 240 = 0xF0 then 0x90 else 0x80) ≤
          UInt8.ofNat (n / 4096 % 64 + 128) ∧
        UInt8.ofNat (n / 4096 % 64 + 128) ≤
          if n / 262144 % 8 + 240 = 0xF4 then 0x8F else 0xBF := by
      refine between_ofNat (by omega) ?_ ?_ <;> split <;> simp <;> omega
    rw [List.cons_append, List.cons_append, List.cons_append, List.singleton_append,
      decode_four (not_lt_of_le (by omega) (by omega)) hlead rfl hb (isFollower_ofNat (by omega))
        (isFollower_ofNat (by omega)),
      follow_ofNat (by omega), follow_ofNat (by omega), follow_ofNat (by omega)]
    congr 3
    dsimp only
    omega

theorem decode_bytes (s : String) : decode (bytes s) = s.toList.map some := by
  have h (cs : List Char) : decode (cs.flatMap String.utf8EncodeChar) = cs.map some := by
    induction cs with
    | nil => rw [List.flatMap_nil, decode, List.map_nil]
    | cons c cs ih =>
      rw [List.flatMap_cons, decode_utf8EncodeChar_append, ih, List.map_cons]
  rw [← String.ofList_toList (s := s), bytes_ofList, h, String.toList_ofList]

theorem text?_bytes (s : String) : text? (bytes s) = some s := by
  have hread : (s.toList.map some).mapM id = some s.toList := by
    rw [List.mapM_map]
    exact (List.mapM_pure (m := Option) (f := id)).trans (by simp)
  rw [text?, decode_bytes, hread, Option.map_some, String.ofList_toList]

end KnowledgeGraph.Text.Utf8
