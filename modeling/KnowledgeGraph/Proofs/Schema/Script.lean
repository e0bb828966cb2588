import KnowledgeGraph.Proofs.Text.Separator
import KnowledgeGraph.Schema.Script

/-!
# Statements of a script

A script that was written statement by statement is read as these statements, however its lines end
and however many blank lines lie between them, also if its last line has no end.
-/

namespace KnowledgeGraph

namespace Schema

open Text (isBlank trimChars splitOnText replaceText)

-- ---------------------------------------------------------------------------
-- How a script is written
-- ---------------------------------------------------------------------------

/-- A text that may be written in a script as one statement. -/
structure IsStatement (s : String) : Prop where
  ne_empty : s ≠ ""
  trimmed : Text.trim s = s
  no_end : Text.contains s ";\n" = false
  no_lineEnd : Text.contains s "\r\n" = false
  not_ended : s.toList.getLast? ≠ some ';'

inductive LineEnd where
  | lf
  | crlf

def LineEnd.text : LineEnd → String
  | .lf => "\n"
  | .crlf => "\r\n"

structure Entry where
  statement : String
  lineEnd : LineEnd
  blankLines : List (String × LineEnd)

def Entry.gap (e : Entry) : String :=
  e.lineEnd.text ++ String.join (e.blankLines.map fun (line, ending) => line ++ ending.text)

def Entry.text (e : Entry) : String := e.statement ++ ";" ++ e.gap

/-- The statement is one, and lines that are meant to be blank are. -/
structure Entry.IsProper (e : Entry) : Prop where
  statement : IsStatement e.statement
  blank : ∀ l ∈ e.blankLines, Text.isBlankText l.1 = true

def scriptOf (entries : List Entry) : String := String.join (entries.map Entry.text)

-- ---------------------------------------------------------------------------
-- Gaps
-- ---------------------------------------------------------------------------

theorem LineEnd.blank (ending : LineEnd) : ∀ c ∈ ending.text.toList, isBlank c = true := by
  refine List.all_eq_true.1 ?_
  cases ending <;> rfl

theorem LineEnd.getLast?_text (ending : LineEnd) : ending.text.toList.getLast? = some '\n' := by
  cases ending <;> rfl

variable {e : Entry}

theorem Entry.blank_gap (h : e.IsProper) : ∀ c ∈ e.gap.toList, isBlank c = true := by
  intro c hc
  rw [gap, String.toList_append, String.toList_join, List.mem_append, List.mem_flatMap] at hc
  rcases hc with hc | ⟨_, hline, hc⟩
  · exact e.lineEnd.blank c hc
  · obtain ⟨⟨line, ending⟩, hmem, rfl⟩ := List.mem_map.1 hline
    rw [String.toList_append, List.mem_append] at hc
    exact hc.elim (List.all_eq_true.1 (h.blank _ hmem) c) (ending.blank c)

theorem Entry.getLast?_gap (e : Entry) : e.gap.toList.getLast? = some '\n' := by
  have key (lines : List (String × LineEnd)) (before : String)
      (h : before.toList.getLast? = some '\n') :
      (before ++ String.join (lines.map fun (line, ending) =>
        line ++ ending.text)).toList.getLast? = some '\n' := by
    induction lines generalizing before with
    | nil => simpa using h
    | cons l lines ih =>
      rw [List.map_cons, String.join_cons, ← String.append_assoc]
      refine ih _ ?_
      rw [String.toList_append, String.toList_append, List.getLast?_append, List.getLast?_append,
        l.2.getLast?_text]
      rfl
  exact key _ _ e.lineEnd.getLast?_text

-- ---------------------------------------------------------------------------
-- One statement
-- ---------------------------------------------------------------------------

section
variable {s : String} {lead gap : List Char}

theorem IsStatement.trimChars_toList (h : IsStatement s) : trimChars s.toList = s.toList := by
  rw [← Text.toList_trim, h.trimmed]

theorem IsStatement.toList_ne_nil (h : IsStatement s) : s.toList ≠ [] := by
  simpa using h.ne_empty

theorem IsStatement.dropEnd_toList (h : IsStatement s) :
    Text.dropEnd isSemicolon s.toList = s.toList :=
  Text.dropEnd_eq_self_iff.2 fun _ hc => beq_false_of_ne fun he => h.not_ended (he ▸ hc)

theorem statementOf_eq_nil (h : ∀ c ∈ gap, isBlank c = true) : statementOf gap = [] := by
  rw [statementOf, Text.trimChars_eq_nil h]
  rfl

theorem statementOf_append (h : IsStatement s) (hlead : ∀ c ∈ lead, isBlank c = true) :
    statementOf (lead ++ s.toList) = s.toList := by
  rw [statementOf, Text.trimChars_append_left hlead, h.trimChars_toList, h.dropEnd_toList,
    h.trimChars_toList]

/-- The last statement of a script keeps its semicolon until it is trimmed. -/
theorem statementOf_append_semicolon (h : IsStatement s) (hlead : ∀ c ∈ lead, isBlank c = true)
    (hgap : ∀ c ∈ gap, isBlank c = true) :
    statementOf (lead ++ (s.toList ++ ';' :: gap)) = s.toList := by
  have htrim : trimChars (s.toList ++ [';']) = s.toList ++ [';'] := by
    refine Text.trimChars_eq_self_iff.2 ⟨?_, ?_⟩
    · rw [List.head?_append_of_ne_nil _ h.toList_ne_nil]
      exact (Text.trimChars_eq_self_iff.1 h.trimChars_toList).1
    · simp [isBlank]
  have hdrop : Text.dropEnd isSemicolon (s.toList ++ [';']) = s.toList := by
    rw [Text.dropEnd_append_of_forall (by simp [isSemicolon]), h.dropEnd_toList]
  rw [statementOf, Text.trimChars_append_left hlead, List.append_cons,
    Text.trimChars_append_right hgap, htrim, hdrop, h.trimChars_toList]

-- ---------------------------------------------------------------------------
-- Lines that all end alike
-- ---------------------------------------------------------------------------

def statementsOf (lines : List Char) : List (List Char) :=
  ((splitOnText [';', '\n'] lines).map statementOf).filter (!·.isEmpty)

theorem not_holds_end (h : IsStatement s) (hlead : ∀ c ∈ lead, isBlank c = true) :
    ¬ [';', '\n'] <:+: lead ++ s.toList := by
  have hsemicolon : ';' ∉ lead := fun hmem => absurd (hlead _ hmem) (by decide)
  rw [Text.pair_infix_append_iff, not_or, not_or]
  refine ⟨fun hinside => hsemicolon (hinside.subset (by simp)),
    Text.contains_eq_false_iff.1 h.no_end, fun hborder => ?_⟩
  exact hsemicolon (List.mem_of_getLast? hborder.1)

theorem statementsOf_eq_nil (h : ∀ c ∈ gap, isBlank c = true) : statementsOf gap = [] := by
  have hnot : ¬ [';', '\n'] <:+: gap := fun hinside =>
    absurd (h ';' (hinside.subset (by simp))) (by decide)
  rw [statementsOf, Text.splitOnText_of_not_infix (List.cons_ne_nil _ _) hnot]
  simp [statementOf_eq_nil h]

theorem statementsOf_append (h : IsStatement s) (hlead : ∀ c ∈ lead, isBlank c = true)
    (rest : List Char) :
    statementsOf (lead ++ s.toList ++ [';', '\n'] ++ rest) = s.toList :: statementsOf rest := by
  have hnot : ¬ [';', '\n'] <:+: lead ++ s.toList ++ [';'] := by
    rw [Text.pair_infix_append_iff, not_or, not_or]
    exact ⟨not_holds_end h hlead, by decide, by simp⟩
  rw [statementsOf, Text.splitOnText_append (List.cons_ne_nil _ _) hnot, List.map_cons,
    statementOf_append h hlead, List.filter_cons_of_pos (by simpa using h.toList_ne_nil),
    statementsOf]

theorem statementsOf_append_semicolon (h : IsStatement s) (hlead : ∀ c ∈ lead, isBlank c = true)
    (hgap : ∀ c ∈ gap, isBlank c = true) :
    statementsOf (lead ++ (s.toList ++ ';' :: gap)) = [s.toList] := by
  by_cases hfeed : gap.head? = some '\n'
  · obtain ⟨rest, rfl⟩ := List.head?_eq_some_iff.1 hfeed
    have hrest : ∀ c ∈ rest, isBlank c = true := fun c hc => hgap c (List.mem_cons_of_mem _ hc)
    rw [← statementsOf_eq_nil hrest, ← statementsOf_append h hlead]
    simp
  · have hnot : ¬ [';', '\n'] <:+: lead ++ (s.toList ++ ';' :: gap) := by
      rw [← List.append_assoc, Text.pair_infix_append_iff, not_or, not_or, List.infix_cons_iff,
        not_or, Text.pair_prefix_cons_iff]
      refine ⟨not_holds_end h hlead, ⟨fun hpre => hfeed hpre.2, fun hinside => ?_⟩, by simp⟩
      exact absurd (hgap ';' (hinside.subset (by simp))) (by decide)
    rw [statementsOf, Text.splitOnText_of_not_infix (List.cons_ne_nil _ _) hnot, List.map_singleton,
      statementOf_append_semicolon h hlead hgap,
      List.filter_cons_of_pos (by simpa using h.toList_ne_nil), List.filter_nil]

end

-- ---------------------------------------------------------------------------
-- Lines that end in either way
-- ---------------------------------------------------------------------------

def fedLines (cs : List Char) : List Char := replaceText ['\r', '\n'] ['\n'] cs

theorem splitStatements_eq (text : String) :
    splitStatements text = (statementsOf (fedLines text.toList)).map String.ofList := rfl

theorem fedLines_append {xs ys : List Char} (h : xs.getLast? ≠ some '\r' ∨ ys.head? ≠ some '\n') :
    fedLines (xs ++ ys) = fedLines xs ++ fedLines ys :=
  Text.replaceText_append _ xs (not_and_or.2 h)

theorem fedLines_lineEnd (ending : LineEnd) : fedLines ending.text.toList = ['\n'] := by
  cases ending with
  | lf => exact Text.replaceText_of_not_infix (List.cons_ne_nil _ _) (by decide) _
  | crlf =>
    have h := Text.replaceText_separator (List.cons_ne_nil '\r' ['\n']) ['\n'] []
    rw [Text.replaceText_nil (List.cons_ne_nil _ _)] at h
    exact h

theorem blank_fedLines {cs : List Char} (h : ∀ c ∈ cs, isBlank c = true) :
    ∀ c ∈ fedLines cs, isBlank c = true := by
  intro c hc
  rcases Text.mem_replaceText (List.cons_ne_nil _ _) hc with hc | hc
  · obtain rfl := List.mem_singleton.1 hc
    rfl
  · exact h c hc

theorem fedLines_semicolon {cs : List Char} : fedLines (';' :: cs) = ';' :: fedLines cs :=
  Text.replaceText_cons (List.cons_ne_nil _ _) (by simp) _

theorem IsStatement.fedLines_append_semicolon {s : String} (h : IsStatement s) (cs : List Char) :
    fedLines (s.toList ++ ';' :: cs) = s.toList ++ ';' :: fedLines cs := by
  have hnot : ¬ ['\r', '\n'] <:+: s.toList := Text.contains_eq_false_iff.1 h.no_lineEnd
  rw [fedLines_append (.inr (by simp)), fedLines_semicolon, fedLines,
    Text.replaceText_of_not_infix (List.cons_ne_nil _ _) hnot]

theorem Entry.fedLines_gap (h : e.IsProper) :
    ∃ blanks, (∀ c ∈ blanks, isBlank c = true) ∧ fedLines e.gap.toList = '\n' :: blanks := by
  have hborder : e.lineEnd.text.toList.getLast? ≠ some '\r' := by
    rw [e.lineEnd.getLast?_text]
    decide
  have hgap := e.blank_gap h
  rw [gap, String.toList_append] at hgap ⊢
  rw [fedLines_append (.inl hborder), fedLines_lineEnd]
  exact ⟨_, blank_fedLines (List.forall_mem_append.1 hgap).2, rfl⟩

theorem Entry.statementsOf_text (h : e.IsProper) {lead : List Char}
    (hlead : ∀ c ∈ lead, isBlank c = true) (rest : List Char) :
    ∃ gap, (∀ c ∈ gap, isBlank c = true) ∧
      statementsOf (lead ++ fedLines (e.text.toList ++ rest)) =
        e.statement.toList :: statementsOf (gap ++ fedLines rest) := by
  obtain ⟨blanks, hblanks, hgap⟩ := e.fedLines_gap h
  refine ⟨blanks, hblanks, ?_⟩
  have htext : e.text.toList ++ rest = e.statement.toList ++ ';' :: (e.gap.toList ++ rest) := by
    simp [text]
  have hfed : fedLines (e.gap.toList ++ rest) = '\n' :: blanks ++ fedLines rest := by
    rw [fedLines_append (.inl (by rw [e.getLast?_gap]; decide)), hgap]
  rw [htext, h.statement.fedLines_append_semicolon, hfed, ← statementsOf_append h.statement hlead]
  simp

theorem statementsOf_scriptOf {entries : List Entry} (h : ∀ e ∈ entries, e.IsProper)
    {lead : List Char} (hlead : ∀ c ∈ lead, isBlank c = true) (rest : List Char) :
    ∃ gap, (∀ c ∈ gap, isBlank c = true) ∧
      statementsOf (lead ++ fedLines ((scriptOf entries).toList ++ rest)) =
        entries.map (·.statement.toList) ++ statementsOf (gap ++ fedLines rest) := by
  induction entries generalizing lead with
  | nil => exact ⟨lead, hlead, rfl⟩
  | cons e entries ih =>
    obtain ⟨he, hentries⟩ := List.forall_mem_cons.1 h
    obtain ⟨gap, hgap, hfirst⟩ :=
      e.statementsOf_text he hlead ((scriptOf entries).toList ++ rest)
    obtain ⟨gap', hgap', hrest⟩ := ih hentries hgap
    refine ⟨gap', hgap', ?_⟩
    rw [scriptOf, List.map_cons, String.join_cons, ← scriptOf, String.toList_append,
      List.append_assoc, hfirst, hrest]
    rfl

/-- Without its last end of a line, a script still ends with a statement and its semicolon. -/
theorem exists_of_append_lineEnd {entries : List Entry} (h : ∀ e ∈ entries, e.IsProper)
    {text : String} {ending : LineEnd} (htext : text ++ ending.text = scriptOf entries) :
    ∃ before e gap, entries = before ++ [e] ∧ (∀ c ∈ gap, isBlank c = true) ∧
      text.toList = (scriptOf before).toList ++ (e.statement.toList ++ ';' :: gap) := by
  rcases entries.eq_nil_or_concat with rfl | ⟨before, e, rfl⟩
  · cases ending <;> simpa [scriptOf, LineEnd.text] using congrArg String.toList htext
  · rw [List.concat_eq_append] at h htext
    have hgap := e.blank_gap (h e (by simp))
    have hlist : text.toList ++ ending.text.toList =
        ((scriptOf before).toList ++ e.statement.toList ++ [';']) ++ e.gap.toList := by
      rw [← String.toList_append, htext]
      simp [scriptOf, Entry.text]
    rcases List.append_eq_append_iff.1 hlist with ⟨left, hleft, hending⟩ | ⟨gap, htext, hrest⟩
    · -- The semicolon is no part of what is missing at the end.
      rcases left.eq_nil_or_concat with rfl | ⟨rest, c, rfl⟩
      · refine ⟨before, e, [], List.concat_eq_append, List.forall_mem_nil _, ?_⟩
        rw [← List.append_assoc, hleft, List.append_nil]
      · have hlast := congrArg List.getLast? hleft
        simp only [List.concat_eq_append, ← List.append_assoc, List.getLast?_concat] at hlast
        cases hlast
        exact absurd (ending.blank ';' (by simp [hending])) (by decide)
    · rw [hrest, List.forall_mem_append] at hgap
      exact ⟨before, e, gap, List.concat_eq_append, hgap.1, by simp [htext]⟩

/-- A script that was written statement by statement is read as these statements, also if its last
line has no end. -/
theorem splitStatements_scriptOf {entries : List Entry} (h : ∀ e ∈ entries, e.IsProper)
    {text : String}
    (htext : text = scriptOf entries ∨ ∃ ending : LineEnd, text ++ ending.text = scriptOf entries) :
    splitStatements text = entries.map (·.statement) := by
  suffices statementsOf (fedLines text.toList) = entries.map (·.statement.toList) by
    rw [splitStatements_eq, this]
    simp
  have hfed : fedLines [] = [] := Text.replaceText_nil (List.cons_ne_nil _ _) _
  rcases htext with rfl | ⟨ending, htext⟩
  · obtain ⟨gap, hgap, hread⟩ := statementsOf_scriptOf h (List.forall_mem_nil _) []
    rw [hfed, List.append_nil, List.append_nil, statementsOf_eq_nil hgap, List.append_nil] at hread
    exact hread
  · obtain ⟨before, e, gap, rfl, hgap, hlist⟩ := exists_of_append_lineEnd h htext
    obtain ⟨hbefore, he⟩ := List.forall_mem_append.1 h
    have hstatement : IsStatement e.statement := (he e List.mem_cons_self).statement
    obtain ⟨lead, hlead, hread⟩ := statementsOf_scriptOf hbefore (List.forall_mem_nil _)
      (e.statement.toList ++ ';' :: gap)
    rw [hstatement.fedLines_append_semicolon,
      statementsOf_append_semicolon hstatement hlead (blank_fedLines hgap)] at hread
    rw [hlist, List.map_append]
    exact hread

def twoEntries : List Entry :=
  [⟨"CREATE (:Skill)", .crlf, [("", .lf), (" \t", .crlf)]⟩,
   ⟨"MATCH (n)\nRETURN \"a;b\"", .lf, []⟩]

theorem twoEntries_are_read : (∀ e ∈ twoEntries, e.IsProper) ∧
    splitStatements "CREATE (:Skill);\r\n\n \t\r\nMATCH (n)\nRETURN \"a;b\";" =
      ["CREATE (:Skill)", "MATCH (n)\nRETURN \"a;b\""] := by
  have h : ∀ e ∈ twoEntries, e.IsProper := by
    refine List.forall_mem_cons.2 ⟨⟨?_, by decide⟩, List.forall_mem_singleton.2 ⟨?_, by decide⟩⟩ <;>
      constructor <;> decide +kernel
  exact ⟨h, splitStatements_scriptOf h (.inr ⟨.lf, by decide +kernel⟩)⟩

end Schema

end KnowledgeGraph
