import Mathlib.Data.List.DropRight
import Mathlib.Data.List.TakeDrop
import KnowledgeGraph.Text.Blank
import KnowledgeGraph.Text.Split

/-!
# Cutting text

Which texts have which pieces.
-/

namespace KnowledgeGraph.Text

-- ---------------------------------------------------------------------------
-- Pieces between separators
-- ---------------------------------------------------------------------------

theorem splitBy_of_forall {p : α → Bool} {cs : List α} (h : ∀ c ∈ cs, p c = false) :
    splitBy p cs = [cs] := by
  induction cs with
  | nil => rfl
  | cons c cs ih =>
    rw [splitBy, h c List.mem_cons_self, ih fun d hd => h d (List.mem_cons_of_mem c hd)]

theorem splitBy_ne_nil (p : α → Bool) (cs : List α) : splitBy p cs ≠ [] := by
  cases cs with
  | nil => simp [splitBy]
  | cons c cs =>
    unfold splitBy
    split <;> simp

theorem splitBy_append_cons {p : α → Bool} {c : α} (h : p c = true) (before after : List α) :
    splitBy p (before ++ c :: after) = splitBy p before ++ splitBy p after := by
  induction before with
  | nil => simp [splitBy, h]
  | cons d before ih =>
    rw [List.cons_append, splitBy, ih, splitBy]
    cases p d with
    | true => rfl
    | false =>
      obtain ⟨piece, pieces, hpieces⟩ := List.exists_cons_of_ne_nil (splitBy_ne_nil p before)
      rw [hpieces]
      rfl

theorem not_mem_of_mem_splitBy {p : α → Bool} {cs piece : List α} (h : piece ∈ splitBy p cs) :
    ∀ c ∈ piece, p c = false := by
  induction cs generalizing piece with
  | nil =>
    obtain rfl := List.mem_singleton.mp h
    exact List.forall_mem_nil _
  | cons d cs ih =>
    obtain ⟨first, pieces, hpieces⟩ := List.exists_cons_of_ne_nil (splitBy_ne_nil p cs)
    rw [splitBy, hpieces] at h
    rw [hpieces] at ih
    cases hd : p d with
    | true =>
      rw [hd] at h
      rcases List.mem_cons.mp h with rfl | h
      · exact List.forall_mem_nil _
      · exact ih h
    | false =>
      rw [hd] at h
      rcases List.mem_cons.mp h with rfl | h
      · exact List.forall_mem_cons.mpr ⟨hd, ih List.mem_cons_self⟩
      · exact ih (List.mem_cons_of_mem _ h)

theorem intercalate_splitBy [DecidableEq α] (sep : α) (cs : List α) :
    [sep].intercalate (splitBy (· == sep) cs) = cs := by
  induction cs with
  | nil => rfl
  | cons c cs ih =>
    obtain ⟨piece, pieces, hpieces⟩ :=
      List.exists_cons_of_ne_nil (splitBy_ne_nil (· == sep) cs)
    rw [splitBy, hpieces]
    rw [hpieces] at ih
    cases hc : c == sep with
    | true =>
      obtain rfl := eq_of_beq hc
      rw [List.intercalate_cons_cons, ih]
      rfl
    | false =>
      cases pieces with
      | nil => simpa using ih
      | cons next pieces => simpa [List.intercalate_cons_cons] using ih

theorem splitBy_intercalate [DecidableEq α] {sep : α} {pieces : List (List α)}
    (hne : pieces ≠ []) (h : ∀ piece ∈ pieces, sep ∉ piece) :
    splitBy (· == sep) ([sep].intercalate pieces) = pieces := by
  have hpiece {piece : List α} (hsep : sep ∉ piece) :
      splitBy (· == sep) piece = [piece] :=
    splitBy_of_forall fun c hc => beq_false_of_ne fun he => hsep (he ▸ hc)
  induction pieces with
  | nil => exact absurd rfl hne
  | cons piece pieces ih =>
    obtain ⟨hfirst, hrest⟩ := List.forall_mem_cons.mp h
    cases pieces with
    | nil => simpa using hpiece hfirst
    | cons next pieces =>
      rw [List.intercalate_cons_cons, List.append_assoc, List.singleton_append,
        splitBy_append_cons (p := (· == sep)) (beq_self_eq_true sep), hpiece hfirst,
        ih (List.cons_ne_nil next pieces) hrest]
      rfl

theorem infix_intercalate {sep piece : List α} {pieces : List (List α)} (h : piece ∈ pieces) :
    piece <:+: sep.intercalate pieces := by
  induction pieces with
  | nil => cases h
  | cons first pieces ih =>
    cases pieces with
    | nil =>
      obtain rfl := List.mem_singleton.mp h
      have halone : sep.intercalate [piece] = piece := List.intercalate_singleton
      exact halone.symm ▸ List.infix_refl piece
    | cons second pieces =>
      rw [List.intercalate_cons_cons, List.append_assoc]
      rcases List.mem_cons.mp h with rfl | h
      · exact (List.prefix_append _ _).isInfix
      · exact (ih h).trans ((List.suffix_append _ _).trans (List.suffix_append _ _)).isInfix

/-- The pieces of a text are the only texts without the separator that make it up again. -/
theorem split_eq_iff {sep : Char} {s : String} {pieces : List String} :
    split sep s = pieces ↔ pieces ≠ [] ∧ (∀ piece ∈ pieces, sep ∉ piece.toList) ∧
      (String.singleton sep).intercalate pieces = s := by
  constructor
  · rintro rfl
    refine ⟨by simp [split, splitBy_ne_nil], fun piece hpiece hsep => ?_, ?_⟩
    · obtain ⟨cs, hcs, rfl⟩ := List.mem_map.mp hpiece
      rw [String.toList_ofList] at hsep
      simpa using not_mem_of_mem_splitBy hcs sep hsep
    · rw [← String.toList_inj, String.toList_intercalate, split, List.map_map]
      simpa [Function.comp_def] using intercalate_splitBy sep s.toList
  · rintro ⟨hne, hsep, rfl⟩
    rw [split, String.toList_intercalate, String.toList_singleton,
      splitBy_intercalate (by simpa using hne) (by simpa using hsep)]
    simp [Function.comp_def]

/-- What is listed with commas: what stands between them, trimmed, where anything is left of it. -/
theorem eq_listed_iff {s : String} {items : List String} :
    items = ((split ',' s).map trim).filter (!·.isEmpty) ↔
      ∃ parts, parts ≠ [] ∧ (∀ part ∈ parts, ',' ∉ part.toList) ∧ ",".intercalate parts = s ∧
        items = (parts.map trim).filter (· ≠ "") := by
  have hfilter (parts : List String) : parts.filter (· ≠ "") = parts.filter (!·.isEmpty) := by
    refine List.filter_congr fun part _ => ?_
    rw [Bool.eq_iff_iff]
    simp
  simp only [hfilter]
  constructor
  · rintro rfl
    obtain ⟨hne, hcomma, hs⟩ := split_eq_iff.mp (rfl : split ',' s = _)
    exact ⟨_, hne, hcomma, hs, rfl⟩
  · rintro ⟨parts, hne, hcomma, hs, rfl⟩
    rw [split_eq_iff.mpr ⟨hne, hcomma, hs⟩]

-- ---------------------------------------------------------------------------
-- Leading text
-- ---------------------------------------------------------------------------

theorem span_of_not_mem [DecidableEq α] {sep : α} {cs : List α} (h : sep ∉ cs) :
    cs.span (· ≠ sep) = (cs, []) := by
  have hcs : ∀ c ∈ cs, decide (c ≠ sep) = true := by
    intro c hc
    simpa using ne_of_mem_of_not_mem hc h
  rw [List.span_eq_takeWhile_dropWhile, List.takeWhile_eq_self_iff.2 hcs,
    List.dropWhile_eq_nil_iff.2 hcs]

theorem span_append_cons [DecidableEq α] {sep : α} {before : List α} (h : sep ∉ before)
    (after : List α) : (before ++ sep :: after).span (· ≠ sep) = (before, sep :: after) := by
  have hbefore : ∀ c ∈ before, decide (c ≠ sep) = true := by
    intro c hc
    simpa using ne_of_mem_of_not_mem hc h
  rw [List.span_eq_takeWhile_dropWhile, List.takeWhile_append_of_pos hbefore,
    List.dropWhile_append_of_pos hbefore]
  simp

theorem append_cons_inj {sep : α} {before before' after after' : List α}
    (h : before ++ sep :: after = before' ++ sep :: after') (hb : sep ∉ before)
    (hb' : sep ∉ before') : before = before' ∧ after = after' := by
  induction before generalizing before' with
  | nil =>
    cases before' with
    | nil => exact ⟨rfl, (List.cons.inj h).2⟩
    | cons c cs => exact absurd (List.cons.inj h).1 (List.ne_of_not_mem_cons hb')
  | cons c cs ih =>
    cases before' with
    | nil => exact absurd (List.cons.inj h).1.symm (List.ne_of_not_mem_cons hb)
    | cons c' cs' =>
      obtain ⟨rfl, hrest⟩ := List.cons.inj h
      obtain ⟨rfl, rfl⟩ := ih hrest (List.not_mem_of_not_mem_cons hb)
        (List.not_mem_of_not_mem_cons hb')
      exact ⟨rfl, rfl⟩

theorem dropLead?_append [DecidableEq α] (lead rest : List α) :
    dropLead? lead (lead ++ rest) = some rest := by
  induction lead with
  | nil => rfl
  | cons l lead ih => simpa [dropLead?] using ih

theorem dropLead?_eq_some_iff [DecidableEq α] {lead cs rest : List α} :
    dropLead? lead cs = some rest ↔ cs = lead ++ rest := by
  induction lead generalizing cs with
  | nil => simp [dropLead?]
  | cons l lead ih =>
    cases cs with
    | nil => simp [dropLead?]
    | cons c cs =>
      rw [dropLead?]
      split
      · next h => rw [ih, h, List.cons_append, List.cons_inj_right]
      · next h => simp [Ne.symm h]

theorem stripLead?_eq_some_iff {s lead rest : String} :
    stripLead? s lead = some rest ↔ s = lead ++ rest := by
  simp only [stripLead?, Option.map_eq_some_iff, dropLead?_eq_some_iff]
  constructor
  · rintro ⟨cs, hcs, rfl⟩
    rw [← String.ofList_toList (s := s), hcs, String.ofList_append, String.ofList_toList]
  · rintro rfl
    exact ⟨rest.toList, String.toList_append, String.ofList_toList⟩

theorem stripLead?_append (lead s : String) : stripLead? (lead ++ s) lead = some s :=
  stripLead?_eq_some_iff.2 rfl

-- ---------------------------------------------------------------------------
-- Blanks around a text
-- ---------------------------------------------------------------------------

theorem trim_of_not_blank {s : String} (h : ∀ c ∈ s.toList, isBlank c = false) : trim s = s := by
  have hkept {cs : List Char} (hcs : ∀ c ∈ cs, isBlank c = false) : cs.dropWhile isBlank = cs := by
    cases cs with
    | nil => rfl
    | cons c cs => rw [List.dropWhile_cons, hcs c List.mem_cons_self]; rfl
  rw [trim, trimChars, dropEnd, hkept h, hkept fun c hc => h c (List.mem_reverse.1 hc),
    List.reverse_reverse, String.ofList_toList]

theorem trimChars_trimChars (cs : List Char) : trimChars (trimChars cs) = trimChars cs := by
  -- What is left begins with what the first pass over the front left there.
  have hfront : (trimChars cs).dropWhile isBlank = trimChars cs := by
    have hlead : trimChars cs <+: cs.dropWhile isBlank := by
      rw [trimChars, dropEnd, ← List.reverse_suffix, List.reverse_reverse]
      exact List.dropWhile_suffix isBlank
    rcases hcs : trimChars cs with _ | ⟨c, kept⟩
    · rfl
    · rw [hcs] at hlead
      obtain ⟨rest, hrest⟩ := hlead
      have hc : isBlank c = false := by
        have := List.head?_dropWhile_not isBlank cs
        simpa [← hrest] using this
      rw [List.dropWhile_cons, hc]
      rfl
  rw [trimChars, hfront, trimChars, dropEnd, dropEnd, List.reverse_reverse]
  congr 1
  exact List.dropWhile_idempotent isBlank _

section
variable {p : Char → Bool} {cs lead gap : List Char}

theorem dropEnd_append_of_forall (h : ∀ c ∈ gap, p c = true) (cs : List Char) :
    dropEnd p (cs ++ gap) = dropEnd p cs := by
  rw [dropEnd, List.reverse_append, List.dropWhile_append_of_pos (by simpa using h), dropEnd]

theorem dropWhile_eq_self_iff_head : cs.dropWhile p = cs ↔ ∀ c ∈ cs.head?, p c = false := by
  rw [List.dropWhile_eq_self_iff]
  cases cs <;> simp

theorem dropEnd_eq_self_iff : dropEnd p cs = cs ↔ ∀ c ∈ cs.getLast?, p c = false := by
  rw [dropEnd, List.reverse_eq_iff, dropWhile_eq_self_iff_head, List.head?_reverse]

theorem trimChars_append_left (h : ∀ c ∈ lead, isBlank c = true) (cs : List Char) :
    trimChars (lead ++ cs) = trimChars cs := by
  rw [trimChars, List.dropWhile_append_of_pos h, trimChars]

theorem trimChars_append_right (h : ∀ c ∈ gap, isBlank c = true) (cs : List Char) :
    trimChars (cs ++ gap) = trimChars cs := by
  rw [trimChars, List.dropWhile_append, trimChars]
  split
  · next hcs =>
    rw [List.dropWhile_eq_nil_iff.2 h, List.isEmpty_iff.1 hcs]
  · exact dropEnd_append_of_forall h _

theorem trimChars_eq_nil (h : ∀ c ∈ gap, isBlank c = true) : trimChars gap = [] :=
  trimChars_append_right h []

theorem exists_dropEnd (p : Char → Bool) (cs : List Char) :
    ∃ gap, (∀ c ∈ gap, p c = true) ∧ cs = dropEnd p cs ++ gap := by
  refine ⟨(cs.reverse.takeWhile p).reverse, fun c hc => ?_, ?_⟩
  · exact List.mem_takeWhile_imp (List.mem_reverse.1 hc)
  · rw [dropEnd, ← List.reverse_append, List.takeWhile_append_dropWhile, List.reverse_reverse]

theorem getLast?_dropEnd : ∀ c ∈ (dropEnd p cs).getLast?, p c = false := by
  intro c hc
  have hdrop := List.head?_dropWhile_not p cs.reverse
  simp only [dropEnd, List.getLast?_reverse] at hc
  simpa [Option.mem_def.1 hc] using hdrop

theorem exists_trimChars (cs : List Char) :
    ∃ lead gap, (∀ c ∈ lead, isBlank c = true) ∧ (∀ c ∈ gap, isBlank c = true) ∧
      cs = lead ++ (trimChars cs ++ gap) := by
  obtain ⟨gap, hgap, hcs⟩ := exists_dropEnd isBlank (cs.dropWhile isBlank)
  refine ⟨cs.takeWhile isBlank, gap, fun c hc => List.mem_takeWhile_imp hc, hgap, ?_⟩
  rw [trimChars, ← hcs, List.takeWhile_append_dropWhile]

theorem dropWhile_append_cons {c : Char} (h : p c = false) (cs rest : List Char) :
    (cs ++ c :: rest).dropWhile p = cs.dropWhile p ++ c :: rest := by
  rw [List.dropWhile_append]
  split
  · next hcs => simp [h, List.isEmpty_iff.1 hcs]
  · rfl

theorem trimChars_concat {c : Char} (h : isBlank c = false) (cs : List Char) :
    trimChars (cs ++ [c]) = cs.dropWhile isBlank ++ [c] := by
  rw [trimChars, dropWhile_append_cons h, dropEnd_eq_self_iff]
  simpa using h

theorem trimChars_eq_self_iff : trimChars cs = cs ↔
    (∀ c ∈ cs.head?, isBlank c = false) ∧ ∀ c ∈ cs.getLast?, isBlank c = false := by
  rw [← dropWhile_eq_self_iff_head, ← dropEnd_eq_self_iff]
  constructor
  · intro h
    have hfront : cs.dropWhile isBlank = cs := by
      refine (List.dropWhile_suffix _).eq_of_length_le ?_
      have hle : (trimChars cs).length ≤ (cs.dropWhile isBlank).length := by
        rw [trimChars, dropEnd, List.length_reverse]
        exact Nat.le_trans (List.dropWhile_suffix _).length_le (Nat.le_of_eq List.length_reverse)
      rwa [h] at hle
    rw [trimChars, hfront] at h
    exact ⟨hfront, h⟩
  · rintro ⟨hfront, hback⟩
    rw [trimChars, hfront, hback]

end

theorem toList_trim (s : String) : (trim s).toList = trimChars s.toList :=
  String.toList_ofList

theorem trim_trim (s : String) : trim (trim s) = trim s := by
  rw [trim, toList_trim, trimChars_trimChars, trim]

theorem trimmed?_eq_some_iff : trimmed? s = some t ↔ t = trim s ∧ t ≠ "" := by
  simp only [trimmed?, String.isEmpty_iff]
  split
  · next h => simp [h]
  · next h =>
    rw [Option.some.injEq, eq_comm]
    exact ⟨fun ht => ⟨ht, ht ▸ h⟩, And.left⟩

theorem trim_of_trimmed? (h : trimmed? s = some t) : t = trim s := by
  unfold trimmed? at h
  dsimp only at h
  split at h
  · cases h
  · cases h
    rfl

end KnowledgeGraph.Text
