import KnowledgeGraph.Calendar
import KnowledgeGraph.Proofs.Text.Split

/-!
# Dates and times are told apart

From a date the count of days comes back, and from the written form of a date and a time the
seconds: two times that are written alike are one.
-/

namespace KnowledgeGraph.Calendar

-- ---------------------------------------------------------------------------
-- Dates
-- ---------------------------------------------------------------------------

/-- The year of an era that a day of it is in. -/
def yearOfEra (day : Nat) : Nat := (day - day / 1460 + day / 36524 - day / 146096) / 365

/-- The first day of a year of an era, as a day of the era. -/
def firstDay (year : Nat) : Nat := 365 * year + year / 4 - year / 100

/-- A day by its century, its four years and the days in them. The last day of four years is a
leap day, and of a century no four years but the last are without one. -/
theorem yearOfEra_eq (hc : c < 4) (hf : f < 25) (hd : d < 1461) (hday : 1461 * f + d < 36524) :
    yearOfEra (36524 * c + 1461 * f + d) =
      100 * c + 4 * f + (if d = 1460 then 3 else d / 365) := by
  have hcentury : (36524 * c + 1461 * f + d) / 36524 = c := by omega
  have hera : (36524 * c + 1461 * f + d) / 146096 = 0 := by omega
  have hfour : (36524 * c + 1461 * f + d) / 1460 = 25 * c + f + (24 * c + f + d) / 1460 := by
    omega
  rw [yearOfEra, hcentury, hera, hfour]
  generalize hleap : (24 * c + f + d) / 1460 = leap
  have hdays : 36524 * c + 1461 * f + d - (25 * c + f + leap) + c - 0 =
      365 * (100 * c + 4 * f) + (d - leap) := by omega
  rw [hdays, Nat.mul_add_div (by decide)]
  split <;> omega

/-- A day is at most 365 days after the first of its year. -/
theorem yearOfEra_bounds (h : day < 146097) : yearOfEra day < 400 ∧
    firstDay (yearOfEra day) ≤ day ∧ day ≤ firstDay (yearOfEra day) + 365 := by
  by_cases hlast : day = 146096
  · subst hlast
    decide
  obtain ⟨c, f, d, hc, hf, hd, hday, rfl⟩ : ∃ c f d, c < 4 ∧ f < 25 ∧ d < 1461 ∧
      1461 * f + d < 36524 ∧ day = 36524 * c + 1461 * f + d :=
    ⟨day / 36524, day % 36524 / 1461, day % 36524 % 1461, by omega, by omega, by omega, by omega,
      by omega⟩
  rw [yearOfEra_eq hc hf hd hday]
  generalize hy : (if d = 1460 then 3 else d / 365) = y
  have hsmall : y < 4 := by split at hy <;> omega
  have hleaps : (100 * c + 4 * f + y) / 4 = 25 * c + f := by omega
  have hcenturies : (100 * c + 4 * f + y) / 100 = c := by omega
  rw [firstDay, hleaps, hcenturies]
  split at hy <;> omega

/-- The count of days since 1970 that a date is. -/
def toDays (d : Date) : Nat :=
  let year := if d.month ≤ 2 then d.year - 1 else d.year
  let fromMarch := if d.month ≤ 2 then d.month + 9 else d.month - 3
  year / 400 * 146097 + firstDay (year % 400) + (153 * fromMarch + 2) / 5 + (d.day - 1) - 719468

def dateOf (era day : Nat) : Date :=
  let dayOfYear := day - firstDay (yearOfEra day)
  let fromMarch := (5 * dayOfYear + 2) / 153
  let month := if fromMarch < 10 then fromMarch + 3 else fromMarch - 9
  ⟨yearOfEra day + era * 400 + (if month ≤ 2 then 1 else 0), month,
    dayOfYear - (153 * fromMarch + 2) / 5 + 1⟩

theorem ofDays_eq (days : Nat) :
    ofDays days = dateOf ((days + 719468) / 146097) ((days + 719468) % 146097) := rfl

theorem toDays_dateOf (h : day < 146097) :
    toDays (dateOf era day) = era * 146097 + day - 719468 := by
  obtain ⟨hyear, hfirst, hlast⟩ := yearOfEra_bounds h
  dsimp only [toDays, dateOf]
  generalize yearOfEra day = year at hyear hfirst hlast ⊢
  generalize hfrom : (5 * (day - firstDay year) + 2) / 153 = fromMarch
  by_cases hspring : fromMarch < 10
  · have hmonth : ¬ fromMarch + 3 ≤ 2 := by omega
    have hera : (year + era * 400 + 0) / 400 = era := by omega
    have hrest : (year + era * 400 + 0) % 400 = year := by omega
    simp only [if_pos hspring, if_neg hmonth, hera, hrest]
    omega
  · have hmonth : fromMarch - 9 ≤ 2 := by omega
    have hera : (year + era * 400 + 1 - 1) / 400 = era := by omega
    have hrest : (year + era * 400 + 1 - 1) % 400 = year := by omega
    simp only [if_neg hspring, if_pos hmonth, hera, hrest]
    omega

theorem toDays_ofDays (days : Nat) : toDays (ofDays days) = days := by
  rw [ofDays_eq, toDays_dateOf (Nat.mod_lt _ (by decide)), Nat.div_add_mod']
  exact Nat.add_sub_cancel days 719468

-- ---------------------------------------------------------------------------
-- Written times
-- ---------------------------------------------------------------------------

theorem isDigit_of_mem_padded (h : c ∈ (padded width n).toList) : c.isDigit = true := by
  rw [padded, String.toList_append, String.toList_ofList, Nat.repr, String.toList_ofList] at h
  rcases List.mem_append.mp h with h | h
  · obtain ⟨-, rfl⟩ := List.mem_replicate.mp h
    decide
  · exact Nat.isDigit_of_mem_toDigits (by decide) (by decide) h

theorem ofDigitChars_padded (width n : Nat) :
    Nat.ofDigitChars 10 (padded width n).toList 0 = n := by
  have hzeros (k : Nat) (cs : List Char) :
      Nat.ofDigitChars 10 (List.replicate k '0' ++ cs) 0 = Nat.ofDigitChars 10 cs 0 := by
    induction k with
    | zero => rfl
    | succ k ih => exact ih
  rw [padded, String.toList_append, String.toList_ofList, hzeros, Nat.repr, String.toList_ofList,
    Nat.ofDigitChars_ten_toDigits]

theorem padded_inj (h : padded width n = padded width m) : n = m := by
  rw [← ofDigitChars_padded width n, h, ofDigitChars_padded]

def signed (year : Nat) : List Char :=
  (if 9999 < year then "+" else "").toList ++ (padded 4 year).toList

theorem signed_inj (h : signed year = signed year') : year = year' := by
  have hdigits (year : Nat) : (signed year).filter Char.isDigit = (padded 4 year).toList := by
    have hsign : (if 9999 < year then "+" else "").toList.filter Char.isDigit = [] := by
      split <;> decide
    have hpadded : (padded 4 year).toList.filter Char.isDigit = (padded 4 year).toList :=
      List.filter_eq_self.mpr fun c => isDigit_of_mem_padded
    rw [signed, List.filter_append, hsign, hpadded, List.nil_append]
  rw [← ofDigitChars_padded 4 year, ← hdigits, h, hdigits, ofDigitChars_padded]

def written (d : Date) (s : Nat) : String :=
  (if 9999 < d.year then "+" else "") ++ padded 4 d.year ++ "-" ++ padded 2 d.month ++ "-" ++
    padded 2 d.day ++ " " ++ padded 2 (s / 3600) ++ ":" ++ padded 2 (s / 60 % 60) ++ ":" ++
    padded 2 (s % 60)

theorem timestamp_eq (seconds : Nat) :
    timestamp seconds = written (ofDays (seconds / 86400)) (seconds % 86400) := rfl

theorem toList_written (d : Date) (s : Nat) : (written d s).toList =
    signed d.year ++ '-' :: ((padded 2 d.month).toList ++ '-' :: ((padded 2 d.day).toList ++
      ' ' :: ((padded 2 (s / 3600)).toList ++ ':' :: ((padded 2 (s / 60 % 60)).toList ++
        ':' :: (padded 2 (s % 60)).toList)))) := by
  have hdash : "-".toList = ['-'] := by decide
  have hblank : " ".toList = [' '] := by decide
  have hcolon : ":".toList = [':'] := by decide
  simp only [written, signed, String.toList_append, List.append_assoc, hdash, hblank, hcolon,
    List.cons_append, List.nil_append]

theorem notMem_padded (h : c.isDigit = false) : c ∉ (padded width n).toList := fun hc =>
  Bool.false_ne_true (h.symm.trans (isDigit_of_mem_padded hc))

theorem notMem_signed (h : c.isDigit = false) (hplus : c ≠ '+') : c ∉ signed year := by
  rw [signed, List.mem_append, not_or]
  refine ⟨?_, notMem_padded h⟩
  split <;> simp [hplus]

theorem written_inj (h : written d s = written d' s') (hs : s < 86400) (hs' : s' < 86400) :
    d = d' ∧ s = s' := by
  have h := congrArg String.toList h
  rw [toList_written, toList_written] at h
  have hdash (year : Nat) : '-' ∉ signed year := notMem_signed (by decide) (by decide)
  obtain ⟨hyear, h⟩ := Text.append_cons_inj h (hdash _) (hdash _)
  have hpadded (c : Char) (hc : c.isDigit = false) (n : Nat) : c ∉ (padded 2 n).toList :=
    notMem_padded hc
  obtain ⟨hmonth, h⟩ := Text.append_cons_inj h (hpadded '-' rfl _) (hpadded '-' rfl _)
  obtain ⟨hday, h⟩ := Text.append_cons_inj h (hpadded ' ' rfl _) (hpadded ' ' rfl _)
  obtain ⟨hhour, h⟩ := Text.append_cons_inj h (hpadded ':' rfl _) (hpadded ':' rfl _)
  obtain ⟨hminute, hsecond⟩ := Text.append_cons_inj h (hpadded ':' rfl _) (hpadded ':' rfl _)
  have hpart {n m : Nat} (h : (padded 2 n).toList = (padded 2 m).toList) : n = m :=
    padded_inj (String.toList_inj.mp h)
  constructor
  · cases d
    cases d'
    rw [Date.mk.injEq]
    exact ⟨signed_inj hyear, hpart hmonth, hpart hday⟩
  · have hhour := hpart hhour
    have hminute := hpart hminute
    have hsecond := hpart hsecond
    omega

/-- Two times that are written alike are one. -/
theorem timestamp_inj (h : timestamp seconds = timestamp seconds') : seconds = seconds' := by
  rw [timestamp_eq, timestamp_eq] at h
  obtain ⟨hdate, htime⟩ := written_inj h (Nat.mod_lt _ (by decide)) (Nat.mod_lt _ (by decide))
  have hdays := congrArg toDays hdate
  rw [toDays_ofDays, toDays_ofDays] at hdays
  rw [← Nat.div_add_mod seconds 86400, hdays, htime, Nat.div_add_mod]

theorem notMem_timestamp (h : c.isDigit = false) (hc : c ∉ ['+', '-', ' ', ':']) :
    c ∉ (timestamp seconds).toList := by
  simp only [List.mem_cons, List.not_mem_nil, not_or] at hc
  obtain ⟨hplus, hdash, hblank, hcolon, -⟩ := hc
  rw [timestamp_eq, toList_written]
  simp only [List.mem_append, List.mem_cons, not_or]
  exact ⟨notMem_signed h hplus, hdash, notMem_padded h, hdash, notMem_padded h, hblank,
    notMem_padded h, hcolon, notMem_padded h, hcolon, notMem_padded h⟩

end KnowledgeGraph.Calendar
