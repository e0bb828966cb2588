import KnowledgeGraph.Proofs.Schema.Script

/-!
# What a script keeps

Of a script, its statements keep everything but blanks and semicolons, and no statement has blanks
around it. Of semicolons at the end of a statement, only those that come last are taken away: where
blanks lie between them, a semicolon is left.
-/

namespace KnowledgeGraph

namespace Schema

open Text (isBlank trimChars splitOnText replaceText)

def isSubstance (c : Char) : Bool := !isBlank c && !isSemicolon c

/-- Semicolons at the end of a text with blanks between them. -/
structure Ending where
  blanks : List Char
  semicolons : List Char
  gap : List Char
  blank : ∀ c ∈ blanks, isBlank c = true
  blanks_ne_nil : blanks ≠ []
  semicolon : ∀ c ∈ semicolons, isSemicolon c = true
  semicolons_ne_nil : semicolons ≠ []
  blank_gap : ∀ c ∈ gap, isBlank c = true

def Ending.text (e : Ending) : List Char := ';' :: (e.blanks ++ e.semicolons ++ e.gap)

/-- Before an end of a statement, or of the lines, there are semicolons with blanks between them, none
of which ends a statement itself. -/
def EndsTwice (lines : List Char) : Prop :=
  ∃ before rest, ∃ e : Ending, lines = before ++ (e.text ++ rest) ∧ ¬ [';', '\n'] <:+: e.text ∧
    (rest = [] ∨ [';', '\n'] <+: rest)

-- ---------------------------------------------------------------------------
-- One piece
-- ---------------------------------------------------------------------------

section
variable {piece : List Char}

theorem isSemicolon_of_blank {c : Char} (h : isBlank c = true) : isSemicolon c = false :=
  beq_false_of_ne fun hc => absurd (hc ▸ h) (by decide)

theorem filter_isSubstance_of_blank {cs : List Char} (h : ∀ c ∈ cs, isBlank c = true) :
    cs.filter isSubstance = [] := by
  rw [List.filter_eq_nil_iff]
  intro c hc
  simp [isSubstance, h c hc]

theorem filter_isSubstance_of_semicolon {cs : List Char} (h : ∀ c ∈ cs, isSemicolon c = true) :
    cs.filter isSubstance = [] := by
  rw [List.filter_eq_nil_iff]
  intro c hc
  simp [isSubstance, h c hc]

/-- What is taken away around a statement. -/
structure Cut (piece : List Char) where
  lead : List Char
  blanks : List Char
  semicolons : List Char
  gap : List Char
  blank_lead : ∀ c ∈ lead, isBlank c = true
  blank : ∀ c ∈ blanks, isBlank c = true
  semicolon : ∀ c ∈ semicolons, isSemicolon c = true
  blank_gap : ∀ c ∈ gap, isBlank c = true
  piece_eq : piece = lead ++ (statementOf piece ++ (blanks ++ semicolons ++ gap))
  blanks_ne_nil : (statementOf piece).getLast? = some ';' → blanks ≠ []
  semicolons_ne_nil : blanks ≠ [] → semicolons ≠ []

theorem exists_cut (piece : List Char) : Nonempty (Cut piece) := by
  obtain ⟨lead, gap, hlead, hgap, hpiece⟩ := Text.exists_trimChars piece
  obtain ⟨semicolons, hsemicolons, htrimmed⟩ :=
    Text.exists_dropEnd isSemicolon (trimChars piece)
  obtain ⟨front, blanks, hfront, hblanks, hdropped⟩ :=
    Text.exists_trimChars (Text.dropEnd isSemicolon (trimChars piece))
  rw [← statementOf] at hdropped
  refine ⟨lead ++ front, blanks, semicolons, gap, List.forall_mem_append.2 ⟨hlead, hfront⟩,
    hblanks, hsemicolons, hgap, ?_, fun hend hnil => ?_, fun hne hnil => ?_⟩
  · conv_lhs => rw [hpiece, htrimmed, hdropped]
    simp
  · -- Semicolons at the very end of the trimmed piece are gone.
    have hlast : (Text.dropEnd isSemicolon (trimChars piece)).getLast? = some ';' := by
      rw [hdropped, hnil]
      simp [hend]
    exact absurd (Text.getLast?_dropEnd _ hlast) (by decide)
  · -- Without semicolons the blanks are at the end of the trimmed piece.
    have hlast := (Text.trimChars_eq_self_iff.1 (Text.trimChars_trimChars piece)).2
    rw [htrimmed, hnil, List.append_nil, hdropped] at hlast
    simp only [List.getLast?_append, List.getLast?_eq_some_getLast hne, Option.some_or,
      Option.mem_some_iff, forall_eq'] at hlast
    simp [hblanks _ (List.getLast_mem hne)] at hlast

theorem filter_statementOf (piece : List Char) :
    (statementOf piece).filter isSubstance = piece.filter isSubstance := by
  obtain ⟨cut⟩ := exists_cut piece
  conv_rhs => rw [cut.piece_eq]
  simp [filter_isSubstance_of_blank cut.blank_lead, filter_isSubstance_of_blank cut.blank,
    filter_isSubstance_of_semicolon cut.semicolon, filter_isSubstance_of_blank cut.blank_gap]

theorem trimChars_statementOf (piece : List Char) :
    trimChars (statementOf piece) = statementOf piece := by
  rw [statementOf, Text.trimChars_trimChars]

theorem exists_ending_of_getLast? (h : (statementOf piece).getLast? = some ';') :
    ∃ front, ∃ e : Ending, piece = front ++ e.text := by
  obtain ⟨cut⟩ := exists_cut piece
  have hblanks := cut.blanks_ne_nil h
  obtain ⟨kept, hkept⟩ := List.getLast?_eq_some_iff.1 h
  refine ⟨cut.lead ++ kept, ⟨cut.blanks, cut.semicolons, cut.gap, cut.blank, hblanks,
    cut.semicolon, cut.semicolons_ne_nil hblanks, cut.blank_gap⟩, ?_⟩
  conv_lhs => rw [cut.piece_eq, hkept]
  simp [Ending.text]

theorem getLast?_statementOf_append (front : List Char) (e : Ending) :
    (statementOf (front ++ e.text)).getLast? = some ';' := by
  have hsemicolon : isBlank ';' = false := rfl
  obtain ⟨before, last, hlast⟩ := List.eq_nil_or_concat e.semicolons |>.resolve_left
    e.semicolons_ne_nil
  have hlastBlank : isBlank last = false := by
    have := e.semicolon last (by simp [hlast])
    simp only [isSemicolon, beq_iff_eq] at this
    rw [this, hsemicolon]
  have htrim : trimChars (front ++ e.text) =
      front.dropWhile isBlank ++ (';' :: e.blanks ++ e.semicolons) := by
    have hgap : front ++ e.text =
        (front ++ ';' :: (e.blanks ++ before)) ++ [last] ++ e.gap := by
      simp [Ending.text, hlast]
    rw [hgap, Text.trimChars_append_right e.blank_gap, Text.trimChars_concat hlastBlank,
      Text.dropWhile_append_cons hsemicolon]
    simp [hlast]
  have hdrop : Text.dropEnd isSemicolon (trimChars (front ++ e.text)) =
      front.dropWhile isBlank ++ [';'] ++ e.blanks := by
    rw [htrim, ← List.append_assoc, Text.dropEnd_append_of_forall e.semicolon]
    simp only [List.append_assoc, List.singleton_append, Text.dropEnd_eq_self_iff]
    intro c hc
    simp only [List.getLast?_append, List.getLast?_cons,
      List.getLast?_eq_some_getLast e.blanks_ne_nil] at hc
    obtain rfl : e.blanks.getLast e.blanks_ne_nil = c := by simpa using hc
    exact isSemicolon_of_blank (e.blank _ (List.getLast_mem _))
  rw [statementOf, hdrop, Text.trimChars_append_right e.blank, Text.trimChars_concat hsemicolon]
  simp

end

-- ---------------------------------------------------------------------------
-- All statements
-- ---------------------------------------------------------------------------

theorem mem_statementsOf {lines s : List Char} :
    s ∈ statementsOf lines ↔ (∃ piece ∈ splitOnText [';', '\n'] lines, statementOf piece = s) ∧
      s ≠ [] := by
  simp [statementsOf]

theorem endsTwice_iff {lines : List Char} :
    EndsTwice lines ↔ ∃ s ∈ statementsOf lines, s.getLast? = some ';' := by
  constructor
  · rintro ⟨before, rest, e, rfl, hinside, hrest⟩
    obtain ⟨piece, hpiece, front, rfl⟩ :=
      Text.exists_mem_splitOnText (by decide) rfl hinside hrest before
    have hend := getLast?_statementOf_append front e
    refine ⟨_, mem_statementsOf.2 ⟨⟨_, hpiece, rfl⟩, fun hnil => ?_⟩, hend⟩
    simp [hnil] at hend
  · rintro ⟨s, hs, hend⟩
    obtain ⟨⟨piece, hpiece, rfl⟩, -⟩ := mem_statementsOf.1 hs
    obtain ⟨hinside, before, rest, rfl, hrest⟩ :=
      Text.exists_of_mem_splitOnText (List.cons_ne_nil _ _) hpiece
    obtain ⟨front, e, rfl⟩ := exists_ending_of_getLast? hend
    refine ⟨before ++ front, rest, e, by simp, fun h => hinside ?_, hrest⟩
    exact h.trans (List.suffix_append front e.text).isInfix

theorem filter_statementsOf (lines : List Char) :
    (statementsOf lines).flatten.filter isSubstance = lines.filter isSubstance := by
  have hpieces : ((splitOnText [';', '\n'] lines).map statementOf).flatten.filter isSubstance =
      (splitOnText [';', '\n'] lines).flatten.filter isSubstance := by
    simp only [List.filter_flatten, List.map_map, Function.comp_def, filter_statementOf]
  rw [statementsOf, List.flatten_filter_not_isEmpty, hpieces,
    Text.filter_flatten_splitOnText (by decide)]

theorem filter_fedLines (cs : List Char) :
    (fedLines cs).filter isSubstance = cs.filter isSubstance :=
  Text.filter_replaceText (by decide) (by decide) cs

theorem exists_isSubstance {s : List Char} (hne : s ≠ []) (htrim : trimChars s = s)
    (hend : s.getLast? ≠ some ';') : ∃ c ∈ s, isSubstance c = true := by
  have hlast := List.getLast?_eq_some_getLast hne
  have hblank := (Text.trimChars_eq_self_iff.1 htrim).2 _ hlast
  refine ⟨s.getLast hne, List.getLast_mem hne, ?_⟩
  have hsemicolon : isSemicolon (s.getLast hne) = false :=
    beq_false_of_ne fun he => hend (he ▸ hlast)
  simp [isSubstance, hblank, hsemicolon]

/-- The statements of a script have no blanks around them and keep everything but blanks and
semicolons. Each holds something, and no semicolon at its end, exactly if no statement is ended with
semicolons that have blanks between them. -/
theorem statements_keep_all_and_end_iff (text : String) :
    (∀ s ∈ splitStatements text, s ≠ "" ∧ Text.trim s = s) ∧
    (String.join (splitStatements text)).toList.filter isSubstance =
      text.toList.filter isSubstance ∧
    ((∀ s ∈ splitStatements text,
        (∃ c ∈ s.toList, isSubstance c = true) ∧ s.toList.getLast? ≠ some ';') ↔
      ¬ EndsTwice (fedLines text.toList)) := by
  have hclean : ∀ s ∈ statementsOf (fedLines text.toList), s ≠ [] ∧ trimChars s = s := by
    intro s hs
    obtain ⟨⟨piece, -, rfl⟩, hne⟩ := mem_statementsOf.1 hs
    exact ⟨hne, trimChars_statementOf piece⟩
  rw [splitStatements_eq]
  refine ⟨?_, ?_, ?_⟩
  · intro s hs
    obtain ⟨cs, hcs, rfl⟩ := List.mem_map.1 hs
    obtain ⟨hne, htrim⟩ := hclean cs hcs
    exact ⟨by simpa using hne, by simp [Text.trim, htrim]⟩
  · have hjoin (lines : List (List Char)) :
        (String.join (lines.map String.ofList)).toList = lines.flatten := by
      simp [String.toList_join, List.flatMap_def]
    rw [hjoin, filter_statementsOf, filter_fedLines]
  · simp only [endsTwice_iff, List.forall_mem_map, String.toList_ofList, not_exists, not_and]
    constructor
    · exact fun h s hs => (h s hs).2
    · intro h s hs
      exact ⟨exists_isSubstance (hclean s hs).1 (hclean s hs).2 (h s hs), h s hs⟩

def semicolonsApart : String := "CREATE (:A);\n; ;"

theorem semicolonsApart_leave_a_semicolon :
    splitStatements semicolonsApart = ["CREATE (:A)", ";"] ∧
    ¬ ∀ s ∈ splitStatements semicolonsApart,
      (∃ c ∈ s.toList, isSubstance c = true) ∧ s.toList.getLast? ≠ some ';' := by
  have hread : splitStatements semicolonsApart = ["CREATE (:A)", ";"] := by decide +kernel
  refine ⟨hread, fun h => ?_⟩
  rw [hread] at h
  exact (h ";" (by simp)).2 rfl

end Schema

end KnowledgeGraph
