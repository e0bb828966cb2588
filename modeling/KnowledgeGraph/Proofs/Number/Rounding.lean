import KnowledgeGraph.Number.Binary64

/-!
# Rounding whole numbers

A whole number of more than 53 bits is rounded to a float of a whole value, no farther from it than
half of the distance between the floats of its size.
-/

namespace KnowledgeGraph.Binary64

-- ---------------------------------------------------------------------------
-- Magnitudes
-- ---------------------------------------------------------------------------

theorem magnitude_ofMagnitude (negative : Bool) (h : m < signBit) :
    (ofMagnitude negative m).magnitude = m := by
  have hbits : (ofMagnitude negative m).bits.toNat = m + if negative then signBit else 0 := by
    refine Nat.mod_eq_of_lt ?_
    unfold signBit at h ⊢
    split <;> omega
  rw [magnitude, hbits]
  cases negative with
  | true => rw [if_pos rfl, Nat.add_mod_right, Nat.mod_eq_of_lt h]
  | false => exact Nat.mod_eq_of_lt h

theorem parts_of_magnitude {x : Binary64} (h : x.magnitude = f + leadingBit * (e + 1))
    (hf : f < leadingBit) : x.parts = (f + leadingBit, (e : Int) - 1074) := by
  have hpos : 0 < leadingBit := by decide
  have hdiv : x.magnitude / leadingBit = e + 1 := by
    rw [h, Nat.add_mul_div_left _ _ hpos, Nat.div_eq_of_lt hf, Nat.zero_add]
  have hmod : x.magnitude % leadingBit = f := by
    rw [h, Nat.add_mul_mod_self_left, Nat.mod_eq_of_lt hf]
  have he : ((e + 1 : Nat) : Int) - 1075 = e - 1074 := by omega
  rw [parts, hdiv, hmod, if_neg (Nat.succ_ne_zero e), he]

/-- A significand may reach the next power of two. It is then that of a float of the next size. -/
theorem quotient_of_magnitude {x : Binary64} (h : x.magnitude = m + leadingBit * e)
    (hlow : leadingBit ≤ m) (hhigh : m ≤ 2 * leadingBit) (he : e = k + 1074) :
    x.quotient = (m * Nat.pow 2 k, 1) := by
  rcases Nat.lt_or_eq_of_le hhigh with hlt | rfl
  · have hparts := parts_of_magnitude (x := x) (f := m - leadingBit) (e := e)
      (by rw [h, Nat.mul_add_one]; omega) (by omega)
    have hexponent : (e : Int) - 1074 = k := by omega
    rw [hexponent, Nat.sub_add_cancel hlow] at hparts
    simp [quotient, hparts]
  · have hparts := parts_of_magnitude (x := x) (f := 0) (e := e + 1)
      (by rw [h, Nat.mul_add_one, Nat.mul_add_one]; omega) (by decide)
    have hexponent : ((e + 1 : Nat) : Int) - 1074 = (k + 1 : Nat) := by omega
    rw [hexponent, Nat.zero_add] at hparts
    rw [quotient, hparts]
    dsimp only
    rw [if_pos (Int.natCast_nonneg _), Int.toNat_natCast, Nat.pow_eq, Nat.pow_succ',
      ← Nat.mul_assoc, Nat.mul_comm leadingBit 2, Nat.pow_eq]

-- ---------------------------------------------------------------------------
-- Rounding
-- ---------------------------------------------------------------------------

theorem roundDiv_eq (num den : Nat) :
    2 * (num % den) ≤ den ∧ roundDiv num den = num / den ∨
      den ≤ 2 * (num % den) ∧ roundDiv num den = num / den + 1 := by
  simp only [roundDiv]
  split
  · exact .inl ⟨by omega, rfl⟩
  · split
    · exact .inr ⟨by omega, rfl⟩
    · rcases Nat.mod_two_eq_zero_or_one (num / den) with h | h <;> rw [h]
      · exact .inl ⟨by omega, rfl⟩
      · exact .inr ⟨by omega, rfl⟩

theorem roundDiv_near (num : Nat) (h : 0 < den) :
    2 * num ≤ 2 * (roundDiv num den * den) + den ∧
      2 * (roundDiv num den * den) ≤ 2 * num + den := by
  have hnum := Nat.div_add_mod' num den
  have hlt := Nat.mod_lt num h
  have hnext := Nat.add_one_mul (num / den) den
  rcases roundDiv_eq num den with ⟨hle, hround⟩ | ⟨hle, hround⟩ <;> rw [hround] <;> omega

theorem floorLog2_one (h : n ≠ 0) : floorLog2 n 1 = n.log2 := by
  have hreached : 1 * Nat.pow 2 n.log2 ≤ n := by simpa using Nat.log2_self_le h
  have hlog : (n.log2 : Int) - Nat.log2 1 = n.log2 := by simp [show Nat.log2 1 = 0 from by decide]
  simp only [floorLog2, hlog, Int.natCast_nonneg, ↓reduceIte, Int.toNat_natCast, hreached]

/-- The distance between the floats of a number's size, if it has at least 53 bits. -/
def unit (n : Nat) : Nat := Nat.pow 2 (n.log2 - 52)

theorem unit_pos (n : Nat) : 0 < unit n := Nat.two_pow_pos _

section
variable {n : Nat}

theorem ne_zero_of_log2 (hlow : 52 ≤ n.log2) : n ≠ 0 := by
  rintro rfl
  simp at hlow

theorem leadingBit_mul_unit (hlow : 52 ≤ n.log2) : leadingBit * unit n = Nat.pow 2 n.log2 := by
  rw [unit, show leadingBit = Nat.pow 2 52 from rfl, Nat.pow_eq, Nat.pow_eq, ← Nat.pow_add,
    Nat.add_sub_cancel' hlow, Nat.pow_eq]

theorem roundDiv_bounds (hlow : 52 ≤ n.log2) :
    leadingBit ≤ roundDiv n (unit n) ∧ roundDiv n (unit n) ≤ 2 * leadingBit := by
  have hn := ne_zero_of_log2 hlow
  have hle : leadingBit ≤ n / unit n := by
    rw [Nat.le_div_iff_mul_le (unit_pos n), leadingBit_mul_unit hlow]
    exact Nat.log2_self_le hn
  have hlt : n / unit n < 2 * leadingBit := by
    rw [Nat.div_lt_iff_lt_mul (unit_pos n), Nat.mul_assoc, leadingBit_mul_unit hlow, Nat.pow_eq,
      ← Nat.pow_succ']
    exact Nat.lt_log2_self
  rcases roundDiv_eq n (unit n) with ⟨-, h⟩ | ⟨-, h⟩ <;> omega

theorem finite_of_log2 (hlow : 52 ≤ n.log2) (hhigh : n.log2 ≤ 1022) :
    roundDiv n (unit n) + leadingBit * (n.log2 - 52 + 1074) < infinityBits := by
  have hbound := (roundDiv_bounds hlow).2
  have hsize : leadingBit * (n.log2 - 52 + 1074) ≤ leadingBit * 2044 :=
    Nat.mul_le_mul_left _ (by omega)
  calc roundDiv n (unit n) + leadingBit * (n.log2 - 52 + 1074)
      ≤ 2 * leadingBit + leadingBit * 2044 := Nat.add_le_add hbound hsize
    _ < infinityBits := by decide

theorem magnitude_ofQuotient_one (negative : Bool) (hlow : 52 ≤ n.log2) (hhigh : n.log2 ≤ 1022) :
    (ofQuotient negative n 1).magnitude =
      roundDiv n (unit n) + leadingBit * (n.log2 - 52 + 1074) := by
  have hn := ne_zero_of_log2 hlow
  have hexponent : max ((n.log2 : Int) - 52) (-1074) = (n.log2 - 52 : Nat) := by omega
  have hfinite := finite_of_log2 hlow hhigh
  have hsign : infinityBits < signBit := by decide
  simp only [ofQuotient, if_neg hn, floorLog2_one hn, hexponent]
  rw [if_pos (Int.natCast_nonneg _), Int.toNat_natCast, ← unit, Nat.one_mul,
    show ((n.log2 - 52 : Nat) : Int) + 1074 = (n.log2 - 52 + 1074 : Nat) by omega,
    Int.toNat_natCast, Nat.min_eq_left (Nat.le_of_lt hfinite), magnitude_ofMagnitude]
  exact Nat.lt_trans hfinite hsign

end

/-- An integer of that size becomes a finite float of a whole value, as near as half of the distance
between the floats there. -/
theorem ofInt_near {n : Int} (hlow : 52 ≤ n.natAbs.log2) (hhigh : n.natAbs.log2 ≤ 1022) :
    (ofInt n).isFinite = true ∧ ∃ m, (ofInt n).quotient = (m, 1) ∧
      2 * n.natAbs ≤ 2 * m + unit n.natAbs ∧ 2 * m ≤ 2 * n.natAbs + unit n.natAbs := by
  obtain ⟨hmin, hmax⟩ := roundDiv_bounds hlow
  have hmagnitude := magnitude_ofQuotient_one (n < 0) hlow hhigh
  refine ⟨?_, _, quotient_of_magnitude hmagnitude hmin hmax rfl, roundDiv_near _ (unit_pos _)⟩
  rw [isFinite, ofInt, hmagnitude]
  exact decide_eq_true (finite_of_log2 hlow hhigh)

end KnowledgeGraph.Binary64
