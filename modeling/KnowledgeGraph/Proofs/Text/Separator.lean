import KnowledgeGraph.Proofs.Text.Split

/-!
# Separators of several characters

Where a separator does not begin, a text is cut, and has its separators replaced, behind its first
character. So only a separator that lies across the border of two texts keeps them from being
treated one by one.
-/

namespace KnowledgeGraph.Text

theorem dropLead?_eq_none_iff [DecidableEq α] {lead cs : List α} :
    dropLead? lead cs = none ↔ ¬ lead <+: cs := by
  rw [← not_iff_not, not_not, ← ne_eq, Option.ne_none_iff_exists']
  simp only [dropLead?_eq_some_iff]
  exact exists_congr fun _ => eq_comm

theorem occursIn_iff {needle cs : List Char} : occursIn needle cs = true ↔ needle <:+: cs := by
  induction cs with
  | nil => simp [occursIn]
  | cons c cs ih =>
    rw [occursIn, Bool.or_eq_true, List.isPrefixOf_iff_prefix, ih, List.infix_cons_iff]

theorem contains_eq_false_iff {s needle : String} :
    contains s needle = false ↔ ¬ needle.toList <:+: s.toList := by
  rw [← Bool.not_eq_true, contains, occursIn_iff]

theorem cutAt?_eq_none_iff [DecidableEq α] {needle cs : List α} :
    cutAt? needle cs = none ↔ ¬ needle <:+: cs := by
  induction cs with
  | nil => simp [cutAt?]
  | cons c cs ih =>
    rw [cutAt?, List.infix_cons_iff, not_or, ← dropLead?_eq_none_iff, ← ih]
    cases dropLead? needle (c :: cs) <;> simp

theorem of_cutAt?_eq_some [DecidableEq α] {needle cs before rest : List α}
    (h : cutAt? needle cs = some (before, rest)) (hneedle : needle ≠ []) :
    cs = before ++ needle ++ rest ∧ ¬ needle <:+: before := by
  induction cs generalizing before with
  | nil => simp [cutAt?, hneedle] at h
  | cons c cs ih =>
    rw [cutAt?] at h
    cases hlead : dropLead? needle (c :: cs) with
    | some after =>
      simp only [hlead, Option.some.injEq, Prod.mk.injEq] at h
      obtain ⟨rfl, rfl⟩ := h
      exact ⟨dropLead?_eq_some_iff.1 hlead, by simpa using hneedle⟩
    | none =>
      simp only [hlead, Option.map_eq_some_iff, Prod.exists, Prod.mk.injEq] at h
      obtain ⟨piece, after, hcut, rfl, rfl⟩ := h
      obtain ⟨rfl, hinside⟩ := ih hcut
      refine ⟨rfl, ?_⟩
      rw [List.infix_cons_iff, not_or]
      refine ⟨fun hpre => dropLead?_eq_none_iff.1 hlead (hpre.trans ?_), hinside⟩
      simp

-- ---------------------------------------------------------------------------
-- Pieces
-- ---------------------------------------------------------------------------

section
variable {sep cs : List Char} {p : Char → Bool}

theorem splitOnText_of_cutAt?_none (h : cutAt? sep cs = none) : splitOnText sep cs = [cs] := by
  rw [splitOnText]
  split
  · rfl
  · split
    · rfl
    · next hsome => cases hsome.symm.trans h

theorem splitOnText_of_cutAt?_some (hsep : sep ≠ []) (h : cutAt? sep cs = some (before, rest)) :
    splitOnText sep cs = before :: splitOnText sep rest := by
  rw [splitOnText, dif_neg hsep]
  split
  · next hnone => cases hnone.symm.trans h
  · next hsome =>
    cases hsome.symm.trans h
    rfl

theorem splitOnText_nil (hsep : sep ≠ []) : splitOnText sep [] = [[]] :=
  splitOnText_of_cutAt?_none (by simp [cutAt?, hsep])

theorem splitOnText_separator (hsep : sep ≠ []) (cs : List Char) :
    splitOnText sep (sep ++ cs) = [] :: splitOnText sep cs := by
  refine splitOnText_of_cutAt?_some hsep ?_
  obtain ⟨c, sep, rfl⟩ := List.exists_cons_of_ne_nil hsep
  rw [List.cons_append, cutAt?, ← List.cons_append, dropLead?_append]

theorem splitOnText_cons (hsep : sep ≠ []) (h : ¬ sep <+: c :: cs) :
    splitOnText sep (c :: cs) = (splitOnText sep cs).modifyHead (c :: ·) := by
  have hcut : cutAt? sep (c :: cs) = (cutAt? sep cs).map fun cut => (c :: cut.1, cut.2) := by
    rw [cutAt?, dropLead?_eq_none_iff.2 h]
  rcases hrest : cutAt? sep cs with _ | ⟨before, rest⟩ <;> rw [hrest] at hcut
  · rw [splitOnText_of_cutAt?_none hcut, splitOnText_of_cutAt?_none hrest]
    rfl
  · rw [splitOnText_of_cutAt?_some hsep hcut, splitOnText_of_cutAt?_some hsep hrest]
    rfl

theorem splitOnText_ne_nil (sep cs : List Char) : splitOnText sep cs ≠ [] := by
  unfold splitOnText
  split
  · simp
  · split <;> simp

theorem splitOnText_of_not_infix (hsep : sep ≠ []) (h : ¬ sep <:+: cs) :
    splitOnText sep cs = [cs] := by
  induction cs with
  | nil => exact splitOnText_nil hsep
  | cons c cs ih =>
    rw [List.infix_cons_iff, not_or] at h
    rw [splitOnText_cons hsep h.1, ih h.2]
    rfl

theorem splitOnText_append (hsep : sep ≠ []) (h : ¬ sep <:+: before ++ sep.dropLast)
    (rest : List Char) :
    splitOnText sep (before ++ sep ++ rest) = before :: splitOnText sep rest := by
  induction before with
  | nil => exact splitOnText_separator hsep rest
  | cons c before ih =>
    rw [List.cons_append, List.infix_cons_iff, not_or] at h
    have hlead : ¬ sep <+: c :: (before ++ sep ++ rest) := by
      intro hlead
      refine h.1 (List.prefix_of_prefix_length_le hlead ?_ (by simp; omega))
      rw [List.append_assoc, List.cons_prefix_cons, List.prefix_append_right_inj]
      exact ⟨rfl, (List.dropLast_prefix sep).trans (List.prefix_append sep rest)⟩
    rw [List.cons_append, List.cons_append, splitOnText_cons hsep hlead, ih h.2]
    rfl

/-- A piece holds no separator, and a separator or nothing follows it. -/
theorem exists_of_mem_splitOnText (hsep : sep ≠ []) (h : piece ∈ splitOnText sep cs) :
    ¬ sep <:+: piece ∧
      ∃ before rest, cs = before ++ piece ++ rest ∧ (rest = [] ∨ sep <+: rest) := by
  fun_induction splitOnText sep cs with
  | case1 cs he => exact absurd he hsep
  | case2 cs _ hcut =>
    obtain rfl := List.mem_singleton.1 h
    exact ⟨cutAt?_eq_none_iff.1 hcut, [], [], by simp, .inl rfl⟩
  | case3 cs _ first rest hcut ih =>
    obtain ⟨rfl, hfirst⟩ := of_cutAt?_eq_some hcut hsep
    rcases List.mem_cons.1 h with rfl | h
    · exact ⟨hfirst, [], sep ++ rest, by simp, .inr (List.prefix_append sep rest)⟩
    · obtain ⟨hpiece, before, after, rfl, hafter⟩ := ih h
      exact ⟨hpiece, first ++ sep ++ before, after, by simp, hafter⟩

theorem intercalate_splitOnText (sep cs : List Char) : sep.intercalate (splitOnText sep cs) = cs := by
  fun_induction splitOnText sep cs with
  | case1 cs _ => simp
  | case2 cs _ _ => simp
  | case3 cs hsep first rest hcut ih =>
    obtain ⟨rfl, -⟩ := of_cutAt?_eq_some hcut hsep
    obtain ⟨piece, pieces, hpieces⟩ := List.exists_cons_of_ne_nil (splitOnText_ne_nil sep rest)
    rw [hpieces, List.intercalate_cons_cons, ← hpieces, ih]

theorem filter_intercalate (h : sep.filter p = []) (pieces : List (List Char)) :
    (sep.intercalate pieces).filter p = pieces.flatten.filter p := by
  induction pieces with
  | nil => simp
  | cons piece pieces ih =>
    cases pieces with
    | nil => simp
    | cons next pieces =>
      rw [List.intercalate_cons_cons, List.flatten_cons, List.filter_append, List.filter_append,
        List.filter_append, h, List.append_nil, ih]

theorem filter_flatten_splitOnText (h : sep.filter p = []) (cs : List Char) :
    (splitOnText sep cs).flatten.filter p = cs.filter p := by
  rw [← filter_intercalate h, intercalate_splitOnText]

-- ---------------------------------------------------------------------------
-- Replacements
-- ---------------------------------------------------------------------------

theorem replaceText_nil (hsep : sep ≠ []) (new : List Char) : replaceText sep new [] = [] := by
  rw [replaceText, splitOnText_nil hsep]
  rfl

theorem replaceText_separator (hsep : sep ≠ []) (new cs : List Char) :
    replaceText sep new (sep ++ cs) = new ++ replaceText sep new cs := by
  obtain ⟨piece, pieces, hpieces⟩ := List.exists_cons_of_ne_nil (splitOnText_ne_nil sep cs)
  rw [replaceText, splitOnText_separator hsep, replaceText, hpieces, List.intercalate_cons_cons]
  rfl

theorem replaceText_cons (hsep : sep ≠ []) (h : ¬ sep <+: c :: cs) (new : List Char) :
    replaceText sep new (c :: cs) = c :: replaceText sep new cs := by
  obtain ⟨piece, pieces, hpieces⟩ := List.exists_cons_of_ne_nil (splitOnText_ne_nil sep cs)
  rw [replaceText, splitOnText_cons hsep h, replaceText, hpieces, List.modifyHead_cons]
  cases pieces with
  | nil => simp
  | cons next pieces => simp [List.intercalate_cons_cons]

theorem replaceText_of_not_infix (hsep : sep ≠ []) (h : ¬ sep <:+: cs) (new : List Char) :
    replaceText sep new cs = cs := by
  rw [replaceText, splitOnText_of_not_infix hsep h]
  simp

theorem mem_replaceText (hsep : sep ≠ []) (h : c ∈ replaceText sep new cs) : c ∈ new ∨ c ∈ cs := by
  induction hn : cs.length using Nat.strong_induction_on generalizing cs with
  | h n ih =>
    subst hn
    by_cases hlead : sep <+: cs
    · obtain ⟨rest, rfl⟩ := hlead
      rw [replaceText_separator hsep, List.mem_append] at h
      have hlt : rest.length < (sep ++ rest).length := by
        simpa using List.length_pos_of_ne_nil hsep
      exact h.elim .inl fun h => (ih _ hlt h rfl).imp_right (List.mem_append_right sep)
    · cases cs with
      | nil => exact .inr (replaceText_nil hsep new ▸ h)
      | cons d cs =>
        rw [replaceText_cons hsep hlead, List.mem_cons] at h
        rcases h with rfl | h
        · exact .inr List.mem_cons_self
        · exact (ih _ (Nat.lt_succ_self _) h rfl).imp_right (List.mem_cons_of_mem d)

theorem filter_replaceText (hold : old.filter p = []) (hnew : new.filter p = []) (cs : List Char) :
    (replaceText old new cs).filter p = cs.filter p := by
  rw [replaceText, filter_intercalate hnew, filter_flatten_splitOnText hold]

end

-- ---------------------------------------------------------------------------
-- Separators of two characters
-- ---------------------------------------------------------------------------

section
variable {a b : Char} {xs ys : List Char}

theorem singleton_prefix_iff : [b] <+: ys ↔ ys.head? = some b := by
  cases ys <;> simp [List.cons_prefix_cons, eq_comm]

theorem singleton_suffix_iff : [a] <:+ xs ↔ xs.getLast? = some a := by
  rw [← List.reverse_prefix, List.reverse_singleton, singleton_prefix_iff, List.head?_reverse]

theorem pair_prefix_cons_iff : [a, b] <+: c :: ys ↔ a = c ∧ ys.head? = some b := by
  rw [List.cons_prefix_cons, singleton_prefix_iff]

/-- A pair lies in one of two texts or across their border. -/
theorem pair_infix_append_iff : [a, b] <:+: xs ++ ys ↔
    [a, b] <:+: xs ∨ [a, b] <:+: ys ∨ xs.getLast? = some a ∧ ys.head? = some b := by
  rw [List.infix_append_iff]
  constructor
  · rintro (h | h | ⟨l₁, l₂, hl, hxs, hys⟩)
    · exact .inl h
    · exact .inr (.inl h)
    · rcases l₁ with _ | ⟨x, _ | ⟨y, l₁⟩⟩
      · exact .inr (.inl (hl ▸ hys.isInfix))
      · cases hl
        exact .inr (.inr ⟨singleton_suffix_iff.1 hxs, singleton_prefix_iff.1 hys⟩)
      · simp only [List.cons_append, List.cons.injEq, List.nil_eq, List.append_eq_nil_iff] at hl
        obtain ⟨rfl, rfl, rfl, -⟩ := hl
        exact .inl hxs.isInfix
  · rintro (h | h | ⟨hxs, hys⟩)
    · exact .inl h
    · exact .inr (.inl h)
    · exact .inr (.inr ⟨[a], [b], rfl, singleton_suffix_iff.2 hxs, singleton_prefix_iff.2 hys⟩)

/-- A stretch up to a separator or the end lies at the end of a piece, unless it begins within a
separator. -/
theorem exists_mem_splitOnText {rest : List Char} (hab : a ≠ b)
    (hhead : ys.head? = some a) (hinside : ¬ [a, b] <:+: ys) (hrest : rest = [] ∨ [a, b] <+: rest) :
    ∀ before : List Char, ∃ piece ∈ splitOnText [a, b] (before ++ (ys ++ rest)), ys <:+ piece
  | [] => by
    have hpair := List.cons_ne_nil a [b]
    rcases hrest with rfl | ⟨rest, rfl⟩
    · rw [List.append_nil, List.nil_append, splitOnText_of_not_infix hpair hinside]
      exact ⟨ys, List.mem_singleton.2 rfl, List.suffix_refl ys⟩
    · have hborder : ¬ [a, b] <:+: ys ++ [a] := by
        simp [pair_infix_append_iff, hinside, hab, List.infix_cons_iff]
      rw [List.nil_append, ← List.append_assoc, splitOnText_append hpair hborder]
      exact ⟨ys, List.mem_cons_self, List.suffix_refl ys⟩
  | c :: before => by
    have hpair := List.cons_ne_nil a [b]
    by_cases hlead : [a, b] <+: c :: (before ++ (ys ++ rest))
    · -- The separator ends before the stretch, which begins as a separator does.
      obtain ⟨rfl, hnext⟩ := pair_prefix_cons_iff.1 hlead
      cases before with
      | nil => simp [hhead, hab] at hnext
      | cons d before =>
        obtain rfl : b = d := by simpa [eq_comm] using hnext
        obtain ⟨piece, hpiece, hend⟩ := exists_mem_splitOnText hab hhead hinside hrest before
        refine ⟨piece, ?_, hend⟩
        exact splitOnText_separator hpair (before ++ (ys ++ rest)) ▸ List.mem_cons_of_mem _ hpiece
    · obtain ⟨piece, hpiece, hend⟩ := exists_mem_splitOnText hab hhead hinside hrest before
      rw [List.cons_append, splitOnText_cons hpair hlead]
      obtain ⟨first, pieces, hpieces⟩ := List.exists_cons_of_ne_nil
        (splitOnText_ne_nil [a, b] (before ++ (ys ++ rest)))
      rw [hpieces] at hpiece ⊢
      rcases List.mem_cons.1 hpiece with rfl | hpiece
      · exact ⟨c :: piece, List.mem_cons_self, hend.trans (List.suffix_cons c piece)⟩
      · exact ⟨piece, List.mem_cons_of_mem _ hpiece, hend⟩

/-- Where no pair lies across their border, two texts have their pairs replaced one by one. -/
theorem replaceText_append (new : List Char) :
    ∀ xs : List Char, ¬ (xs.getLast? = some a ∧ ys.head? = some b) →
      replaceText [a, b] new (xs ++ ys) = replaceText [a, b] new xs ++ replaceText [a, b] new ys
  | [], _ => by
    rw [replaceText_nil (List.cons_ne_nil a [b])]
    rfl
  | [c], h => by
    have hborder : ¬ [a, b] <+: c :: ys := fun hlead =>
      h ((pair_prefix_cons_iff.1 hlead).imp_left fun hc => congrArg some hc.symm)
    have hend : ¬ [a, b] <+: [c] := fun hlead => nomatch (pair_prefix_cons_iff.1 hlead).2
    have hpair := List.cons_ne_nil a [b]
    rw [List.singleton_append, replaceText_cons hpair hborder, replaceText_cons hpair hend,
      replaceText_nil hpair, List.singleton_append]
  | c :: d :: xs, h => by
    have hpair := List.cons_ne_nil a [b]
    by_cases hlead : a = c ∧ some d = some b
    · obtain ⟨rfl, hd⟩ := hlead
      cases hd
      have hrest : ¬ (xs.getLast? = some a ∧ ys.head? = some b) := by
        rintro ⟨hlast, hhead⟩
        refine h ⟨?_, hhead⟩
        rw [List.getLast?_cons_cons, List.getLast?_cons, hlast]
        rfl
      have hsep := replaceText_separator hpair new
      calc replaceText [a, b] new ([a, b] ++ (xs ++ ys))
        _ = new ++ (replaceText [a, b] new xs ++ replaceText [a, b] new ys) := by
          rw [hsep, replaceText_append new xs hrest]
        _ = replaceText [a, b] new ([a, b] ++ xs) ++ replaceText [a, b] new ys := by
          rw [hsep, List.append_assoc]
    · have hhead (zs : List Char) : ¬ [a, b] <+: c :: d :: zs :=
        fun hpre => hlead (pair_prefix_cons_iff.1 hpre)
      rw [List.getLast?_cons_cons] at h
      rw [List.cons_append, List.cons_append, replaceText_cons hpair (hhead _),
        replaceText_cons hpair (hhead _), ← List.cons_append, replaceText_append new (d :: xs) h,
        List.cons_append]

end

end KnowledgeGraph.Text
