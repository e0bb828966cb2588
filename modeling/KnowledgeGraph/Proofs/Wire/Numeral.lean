import KnowledgeGraph.Number.Text
import KnowledgeGraph.Wire.Numeral

/-!
# Whole numbers read back

The digits of a number are read as that number, if it fits into 64 bits and if what follows them
cannot be part of a numeral.
-/

namespace KnowledgeGraph.Wire.Numeral

def Ends (rest : List Char) : Prop :=
  ∀ c ∈ rest.head?, c.isDigit = false ∧ c ≠ '.' ∧ c ≠ 'e' ∧ c ≠ 'E'

theorem ends_nil : Ends [] := by
  rintro c ⟨⟩

theorem ends_cons {c : Char} (h : c.isDigit = false ∧ c ≠ '.' ∧ c ≠ 'e' ∧ c ≠ 'E')
    (rest : List Char) : Ends (c :: rest) := by
  rintro d ⟨⟩
  exact h

-- ---------------------------------------------------------------------------
-- Digits
-- ---------------------------------------------------------------------------

def valueOf (c : Char) : Nat := c.toNat - 48

theorem digit?_eq (c : Char) : digit? (some c) = if c.isDigit then some (valueOf c) else none := by
  have h : c.isDigit = decide ('0' ≤ c ∧ c ≤ '9') := by
    simp [Char.isDigit, Char.le_def]
  simp only [digit?, h, decide_eq_true_eq]
  rfl

theorem digits_append {cs rest : List Char} (hcs : ∀ c ∈ cs, c.isDigit = true)
    (hrest : Ends rest) :
    digits ((cs ++ rest).map some) = (cs.map valueOf, rest.map some) := by
  induction cs with
  | nil =>
    cases rest with
    | nil => rfl
    | cons c rest => simp [digits, digit?_eq, (hrest c rfl).1]
  | cons c cs ih =>
    rw [List.cons_append, List.map_cons, digits, digit?_eq, if_pos (hcs c List.mem_cons_self)]
    dsimp only
    rw [ih fun d hd => hcs d (List.mem_cons_of_mem c hd), List.map_cons]

theorem gather_of_le {ds : List Nat} {start : Nat}
    (h : ds.foldl (fun n d => n * 10 + d) start ≤ maxSignificand) :
    gather start ds = (ds.foldl (fun n d => n * 10 + d) start, 0) := by
  have hle (ds : List Nat) (start : Nat) : start ≤ ds.foldl (fun n d => n * 10 + d) start := by
    induction ds generalizing start with
    | nil => exact Nat.le_refl start
    | cons d ds ih =>
      have := ih (start * 10 + d)
      rw [List.foldl_cons]
      omega
  induction ds generalizing start with
  | nil => rfl
  | cons d ds ih =>
    rw [gather, if_pos (Nat.le_trans (hle ds _) h)]
    exact ih h

theorem foldl_valueOf (n : Nat) :
    ((Nat.toDigits 10 n).map valueOf).foldl (fun n d => n * 10 + d) 0 = n := by
  have h : ((Nat.toDigits 10 n).map valueOf).foldl (fun n d => n * 10 + d) 0 =
      Nat.ofDigitChars 10 (Nat.toDigits 10 n) 0 := by
    rw [Nat.ofDigitChars_eq_foldl, List.foldl_map]
    simp only [Nat.mul_comm]
    rfl
  rw [h, Nat.ofDigitChars_ten_toDigits]

theorem exists_head_ne_zero {n : Nat} (hn : 0 < n) :
    ∃ c cs, Nat.toDigits 10 n = c :: cs ∧ valueOf c ≠ 0 := by
  induction n using Nat.strongRecOn with
  | _ n ih =>
    rcases Nat.lt_or_ge n 10 with h | h
    · refine ⟨n.digitChar, [], Nat.toDigits_of_lt_base h, ?_⟩
      rw [valueOf, Nat.toNat_digitChar_sub_48_of_lt_ten h]
      exact Nat.ne_of_gt hn
    · obtain ⟨c, cs, hdigits, hc⟩ := ih (n / 10) (by omega) (by omega)
      refine ⟨c, cs ++ [(n % 10).digitChar], ?_, hc⟩
      rw [Nat.toDigits_of_base_le (by decide) h, hdigits, List.cons_append]

theorem gather_toDigits {n : Nat} (hn : n ≤ maxNat64) :
    gather 0 ((Nat.toDigits 10 n).map valueOf) = (n, 0) := by
  rw [gather_of_le (by rw [foldl_valueOf]; exact hn), foldl_valueOf]

theorem read_toDigits {n : Nat} (hn : n ≤ maxNat64) {rest : List Char} (hrest : Ends rest)
    (negative : Bool) :
    read negative ((Nat.toDigits 10 n ++ rest).map some) =
      some (ofDigits negative ((Nat.toDigits 10 n).map valueOf), rest.map some) := by
  have hall : ∀ c ∈ Nat.toDigits 10 n, c.isDigit = true :=
    fun c hc => Nat.isDigit_of_mem_toDigits (by decide) (by decide) hc
  have hdigits := digits_append hall hrest
  unfold read
  rw [hdigits]
  split
  · next h => simp at h
  · next d ds _ h =>
    -- A leading zero stands alone.
    rw [Prod.mk.injEq] at h
    rcases Nat.eq_zero_or_pos n with rfl | hpos
    · simp at h
    · obtain ⟨c, cs, hcs, hc⟩ := exists_head_ne_zero hpos
      rw [hcs, List.map_cons, List.cons.injEq] at h
      exact absurd h.1.1 hc
  · next ds _ _ _ h =>
    rw [Prod.mk.injEq] at h
    obtain ⟨rfl, rfl⟩ := h
    rw [gather_toDigits hn]
    cases rest with
    | nil => rfl
    | cons c rest =>
      obtain ⟨-, hdot, he, hE⟩ := hrest c rfl
      simp [hdot, he, hE]

theorem ofDigits_natural {n : Nat} (hn : n ≤ maxNat64) :
    ofDigits false ((Nat.toDigits 10 n).map valueOf) = .num (.int n) := by
  simp [ofDigits, gather_toDigits hn]

theorem ofDigits_negative {n : Nat} (hpos : 0 < n) (hn : n ≤ 0x8000000000000000) :
    ofDigits true ((Nat.toDigits 10 n).map valueOf) = .num (.int (-n)) := by
  have hmax : n ≤ maxNat64 := Nat.le_trans hn (by decide)
  simp [ofDigits, gather_toDigits hmax, hpos, hn]

end KnowledgeGraph.Wire.Numeral
