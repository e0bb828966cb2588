import KnowledgeGraph.Number.Binary64

/-!
# The total order of numbers

An order of all bits: what has the negative sign comes first, with the greater magnitude first, and
then the rest by magnitude. So the negative zero comes before the positive one, and what is not a
number beyond the infinities. No two numbers share a place.
-/

namespace KnowledgeGraph.Binary64

inductive TotalLe (x y : Binary64) : Prop where
  | signs : x.isNegative = true → y.isNegative = false → TotalLe x y
  | negative : x.isNegative = true → y.isNegative = true → y.magnitude ≤ x.magnitude → TotalLe x y
  | positive : x.isNegative = false → y.isNegative = false → x.magnitude ≤ y.magnitude →
      TotalLe x y

theorem rank_of_isNegative {x : Binary64} (h : x.isNegative = true) :
    x.rank = -(x.magnitude : Int) - 1 := by
  rw [rank, if_pos h]

theorem rank_of_not_isNegative {x : Binary64} (h : x.isNegative = false) :
    x.rank = x.magnitude := by
  rw [rank, if_neg (by rw [h]; decide)]

theorem rank_le_iff {x y : Binary64} : x.rank ≤ y.rank ↔ x.TotalLe y := by
  constructor
  · intro h
    cases hx : x.isNegative <;> cases hy : y.isNegative
    · rw [rank_of_not_isNegative hx, rank_of_not_isNegative hy] at h
      exact .positive hx hy (by omega)
    · rw [rank_of_not_isNegative hx, rank_of_isNegative hy] at h
      omega
    · exact .signs hx hy
    · rw [rank_of_isNegative hx, rank_of_isNegative hy] at h
      exact .negative hx hy (by omega)
  · rintro (⟨hx, hy⟩ | ⟨hx, hy, h⟩ | ⟨hx, hy, h⟩)
    · rw [rank_of_isNegative hx, rank_of_not_isNegative hy]
      omega
    · rw [rank_of_isNegative hx, rank_of_isNegative hy]
      omega
    · rw [rank_of_not_isNegative hx, rank_of_not_isNegative hy]
      omega

theorem toNat_bits_eq (x : Binary64) :
    x.bits.toNat = x.magnitude + if x.isNegative then signBit else 0 := by
  have hlt := x.bits.toNat_lt
  have hdiv := Nat.div_add_mod x.bits.toNat signBit
  rw [isNegative, magnitude]
  unfold signBit at hdiv ⊢
  split
  · next h =>
    rw [beq_iff_eq] at h
    omega
  · next h =>
    rw [beq_iff_eq] at h
    omega

theorem eq_of_parts {x y : Binary64} (hsign : x.isNegative = y.isNegative)
    (hmagnitude : x.magnitude = y.magnitude) : x = y := by
  obtain ⟨a⟩ := x
  obtain ⟨b⟩ := y
  have hbits : a.toNat = b.toNat := by
    have ha := toNat_bits_eq ⟨a⟩
    rw [hsign, hmagnitude, ← toNat_bits_eq] at ha
    exact ha
  rw [UInt64.toNat_inj.mp hbits]

theorem rank_inj {x y : Binary64} : x.rank = y.rank ↔ x = y := by
  refine ⟨fun h => ?_, congrArg rank⟩
  cases hx : x.isNegative <;> cases hy : y.isNegative
  · rw [rank_of_not_isNegative hx, rank_of_not_isNegative hy] at h
    exact eq_of_parts (hx.trans hy.symm) (by omega)
  · rw [rank_of_not_isNegative hx, rank_of_isNegative hy] at h
    omega
  · rw [rank_of_isNegative hx, rank_of_not_isNegative hy] at h
    omega
  · rw [rank_of_isNegative hx, rank_of_isNegative hy] at h
    exact eq_of_parts (hx.trans hy.symm) (by omega)

theorem TotalLe.trans (hxy : TotalLe x y) (hyz : TotalLe y z) : TotalLe x z :=
  rank_le_iff.mp (Int.le_trans (rank_le_iff.mpr hxy) (rank_le_iff.mpr hyz))

theorem TotalLe.total (x y : Binary64) : TotalLe x y ∨ TotalLe y x :=
  (Int.le_total x.rank y.rank).imp rank_le_iff.mp rank_le_iff.mp

theorem TotalLe.antisymm (hxy : TotalLe x y) (hyx : TotalLe y x) : x = y :=
  rank_inj.mp (Int.le_antisymm (rank_le_iff.mpr hxy) (rank_le_iff.mpr hyx))

end KnowledgeGraph.Binary64
