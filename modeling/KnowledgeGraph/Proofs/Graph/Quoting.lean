import KnowledgeGraph.Graph.Identifier
import KnowledgeGraph.Proofs.Outcome
import KnowledgeGraph.Proofs.Text.Split

/-!
# Quoted identifiers are read back

A scanner that knows nothing of how identifiers are quoted finds in a label expression the labels
that went into it, and stops where the expression ends. What a label holds, backticks above all,
is therefore never taken for a part of the statement around it.
-/

namespace KnowledgeGraph.Graph

-- ---------------------------------------------------------------------------
-- The scanner
-- ---------------------------------------------------------------------------

/-- The name that ends at the next closing quote, and what follows. The opening quote has been
read; a quote written twice belongs to the name. -/
def readQuoted : List Char → Option (List Char × List Char)
  | [] => none
  | '\x60' :: '\x60' :: cs => (readQuoted cs).map fun (name, rest) => ('\x60' :: name, rest)
  | '\x60' :: cs => some ([], cs)
  | c :: cs => (readQuoted cs).map fun (name, rest) => (c :: name, rest)

theorem length_of_readQuoted (h : readQuoted cs = some (name, rest)) :
    rest.length < cs.length := by
  induction cs using readQuoted.induct generalizing name with
  | case1 => simp [readQuoted] at h
  | case2 cs ih =>
    simp only [readQuoted, Option.map_eq_some_iff, Prod.exists, Prod.mk.injEq] at h
    obtain ⟨n, r, hr, -, rfl⟩ := h
    have := ih hr
    simp only [List.length_cons]
    omega
  | case3 cs hcs =>
    simp only [readQuoted, Option.some.injEq, Prod.mk.injEq] at h
    simp [h.2]
  | case4 c cs h₁ h₂ ih =>
    simp only [readQuoted, Option.map_eq_some_iff, Prod.exists, Prod.mk.injEq] at h
    obtain ⟨n, r, hr, -, rfl⟩ := h
    have := ih hr
    simp only [List.length_cons]
    omega

def readLabels (cs : List Char) : List String × List Char :=
  match cs with
  | ':' :: '\x60' :: quoted =>
    match _h : readQuoted quoted with
    | some (name, rest) =>
      let (names, stop) := readLabels rest
      (String.ofList name :: names, stop)
    | none => ([], cs)
  | _ => ([], cs)
termination_by cs.length
decreasing_by
  have := length_of_readQuoted _h
  simp only [List.length_cons]
  omega

/-- A text that can follow a label expression: it neither goes on with the last quoted name nor
adds a label. -/
def EndsLabels (rest : List Char) : Prop :=
  rest.head? ≠ some '\x60' ∧ rest.head? ≠ some ':'

instance (rest : List Char) : Decidable (EndsLabels rest) := by
  unfold EndsLabels
  infer_instance

-- ---------------------------------------------------------------------------
-- One identifier
-- ---------------------------------------------------------------------------

/-- The closing quote is the first that is not doubled, provided that no quote follows it. -/
theorem readQuoted_doubleBackticks (name : List Char) (hr : rest.head? ≠ some '\x60') :
    readQuoted (doubleBackticks name ++ '\x60' :: rest) = some (name, rest) := by
  induction name with
  | nil =>
    simp only [doubleBackticks, List.nil_append]
    cases rest with
    | nil => rfl
    | cons c cs =>
      have hc : c ≠ '\x60' := by simpa using hr
      simp [readQuoted, hc]
  | cons c cs ih =>
    by_cases hc : c = '\x60'
    · simp [doubleBackticks, hc, readQuoted, ih]
    · simp [doubleBackticks, hc, readQuoted, ih]

theorem quote_eq_ok_iff : quote name = .ok quoted ↔
    (Text.trimChars name.toList ≠ [] ∧
      (Text.trimChars name.toList).length ≤ maxIdentifierLength ∧
      ∀ c ∈ Text.trimChars name.toList, Text.isControl c = false) ∧
    quoted = String.ofList (quoteChars (Text.trimChars name.toList)) := by
  unfold quote
  generalize Text.trimChars name.toList = cs
  dsimp only
  split
  · next h => simp_all
  · next h =>
    split
    · next hl =>
      have : ¬ cs.length ≤ maxIdentifierLength := by omega
      simp [this]
    · next hl =>
      have : cs.length ≤ maxIdentifierLength := by omega
      split
      · next hc =>
        have : ¬ ∀ c ∈ cs, Text.isControl c = false := by simpa using hc
        simp [this]
      · next hc =>
        have hc : ∀ c ∈ cs, Text.isControl c = false := by simpa using hc
        have hn : cs ≠ [] := by simpa using h
        simp only [Except.ok.injEq, hn, this, ne_eq, not_false_eq_true, true_and]
        exact ⟨fun he => ⟨hc, he.symm⟩, fun he => he.2.symm⟩

-- ---------------------------------------------------------------------------
-- Labels in a row
-- ---------------------------------------------------------------------------

theorem labelExpression_cons_eq_ok_iff : labelExpression (label :: labels) = .ok text ↔
    ∃ quoted rest, quote label = .ok quoted ∧ labelExpression labels = .ok rest ∧
      text = ":" ++ quoted ++ rest := by
  simp only [labelExpression, bind_eq_ok_iff, pure_eq_ok_iff, exists_and_left,
    eq_comm (a := text)]

structure IsName (name : String) : Prop where
  given : Text.trim name ≠ ""
  short : (Text.trim name).length ≤ maxIdentifierLength
  visible : ∀ c ∈ (Text.trim name).toList, Text.isControl c = false

theorem isName_trim_iff : IsName (Text.trim name) ↔ IsName name := by
  constructor <;> rintro ⟨hgiven, hshort, hvisible⟩
  · rw [Text.trim_trim] at hgiven hshort hvisible
    exact ⟨hgiven, hshort, hvisible⟩
  · rw [← Text.trim_trim] at hgiven hshort hvisible
    exact ⟨hgiven, hshort, hvisible⟩

theorem exists_quote_iff : (∃ quoted, quote name = .ok quoted) ↔ IsName name := by
  simp only [quote_eq_ok_iff, exists_and_left, exists_eq, and_true]
  rw [← Text.toList_trim, String.length_toList, ne_eq, String.toList_eq_nil_iff]
  exact ⟨fun ⟨hn, hl, hc⟩ => ⟨hn, hl, hc⟩, fun h => ⟨h.given, h.short, h.visible⟩⟩

theorem exists_labelExpression_iff :
    (∃ text, labelExpression labels = .ok text) ↔ ∀ label ∈ labels, IsName label := by
  induction labels with
  | nil => exact ⟨fun _ => List.forall_mem_nil _, fun _ => ⟨"", rfl⟩⟩
  | cons label labels ih =>
    rw [List.forall_mem_cons, ← exists_quote_iff, ← ih]
    constructor
    · rintro ⟨text, h⟩
      obtain ⟨quoted, rest, hq, hr, -⟩ := labelExpression_cons_eq_ok_iff.mp h
      exact ⟨⟨quoted, hq⟩, rest, hr⟩
    · rintro ⟨⟨quoted, hq⟩, rest, hr⟩
      exact ⟨_, labelExpression_cons_eq_ok_iff.mpr ⟨quoted, rest, hq, hr, rfl⟩⟩

theorem readLabels_of_endsLabels (h : EndsLabels rest) : readLabels rest = ([], rest) := by
  rw [readLabels]
  rintro quoted rfl
  simp [EndsLabels] at h

/-- What is quoted first in an expression is the first label, whatever comes after. -/
theorem readLabels_quoteChars (name : List Char) (hr : rest.head? ≠ some '\x60') :
    readLabels (':' :: quoteChars name ++ rest) =
      (String.ofList name :: (readLabels rest).1, (readLabels rest).2) := by
  have hq : ':' :: quoteChars name ++ rest =
      ':' :: '\x60' :: (doubleBackticks name ++ '\x60' :: rest) := by
    simp [quoteChars]
  rw [hq, readLabels]
  split
  · next n r h =>
    rw [readQuoted_doubleBackticks name hr] at h
    obtain ⟨rfl, rfl⟩ := Prod.mk.inj (Option.some.inj h)
    rfl
  · next h => simp [readQuoted_doubleBackticks name hr] at h

/-- An expression is empty or begins with a colon, so it never goes on with a quoted name that
stands before it. -/
theorem head?_labelExpression_append (h : labelExpression labels = .ok text)
    (hr : rest.head? ≠ some '\x60') : (text.toList ++ rest).head? ≠ some '\x60' := by
  cases labels with
  | nil =>
    obtain rfl : "" = text := by simpa [labelExpression] using h
    simpa using hr
  | cons label labels =>
    obtain ⟨quoted, tail, -, -, rfl⟩ := labelExpression_cons_eq_ok_iff.mp h
    simp [String.toList_append]

theorem readLabels_labelExpression (h : labelExpression labels = .ok text)
    (hr : EndsLabels rest) :
    readLabels (text.toList ++ rest) = (labels.map Text.trim, rest) := by
  induction labels generalizing text with
  | nil =>
    obtain rfl : "" = text := by simpa [labelExpression] using h
    simpa using readLabels_of_endsLabels hr
  | cons label labels ih =>
    obtain ⟨quoted, tail, hq, ht, rfl⟩ := labelExpression_cons_eq_ok_iff.mp h
    obtain ⟨-, rfl⟩ := quote_eq_ok_iff.mp hq
    have hcs : (":" ++ String.ofList (quoteChars (Text.trimChars label.toList)) ++ tail).toList ++
        rest = ':' :: quoteChars (Text.trimChars label.toList) ++ (tail.toList ++ rest) := by
      simp [String.toList_append]
    rw [hcs, readLabels_quoteChars _ (head?_labelExpression_append ht hr.1), ih ht]
    rfl

/-- A name can be quoted exactly if, trimmed, it is not empty, has at most 256 characters and
holds no control character; and the labels of an expression, trimmed and in order, are what a
scanner reads from it, to the character at which the rest of the statement begins. -/
theorem quoted_labels_are_read_back :
    (∀ name, (∃ quoted, quote name = .ok quoted) ↔
      Text.trim name ≠ "" ∧ (Text.trim name).length ≤ 256 ∧
        ∀ c ∈ (Text.trim name).toList, Text.isControl c = false) ∧
    ∀ labels expression rest, labelExpression labels = .ok expression → EndsLabels rest.toList →
      readLabels (expression ++ rest).toList = (labels.map Text.trim, rest.toList) := by
  refine ⟨fun name => ?_, fun labels expression rest h hr => ?_⟩
  · simp only [quote_eq_ok_iff, exists_and_left, exists_eq, and_true, Text.trim,
      String.toList_ofList, String.length_ofList, maxIdentifierLength, ne_eq,
      String.ofList_eq_empty_iff]
  · rw [String.toList_append]
    exact readLabels_labelExpression h hr

def tickedLabels : List String := ["\x60\x60a", " b\x60) DETACH DELETE n // \x60", "\x60"]

def tickedExpression : String :=
  ":\x60\x60\x60\x60\x60a\x60:" ++
    "\x60b\x60\x60) DETACH DELETE n // \x60\x60\x60:\x60\x60\x60\x60"

theorem quoted_runs_are_read_back :
    labelExpression tickedLabels = .ok tickedExpression ∧
    EndsLabels ")\nSET n = $properties".toList ∧
    readLabels (tickedExpression ++ ")\nSET n = $properties").toList =
      (tickedLabels.map Text.trim, ")\nSET n = $properties".toList) := by
  have hl : labelExpression tickedLabels = .ok tickedExpression := rfl
  have he : EndsLabels ")\nSET n = $properties".toList := by decide
  exact ⟨hl, he, quoted_labels_are_read_back.2 _ _ _ hl he⟩

end KnowledgeGraph.Graph
