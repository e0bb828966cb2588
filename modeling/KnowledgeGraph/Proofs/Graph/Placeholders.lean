import KnowledgeGraph.Graph.Statement
import KnowledgeGraph.Proofs.Graph.Quoting
import KnowledgeGraph.Proofs.Json.Members

/-!
# Parameters of a statement's text

A text refers to its parameters by `$name`; inside a quoted identifier a `$` is a character like
any other. Texts in which no identifier is left open can be put together, and what the whole
refers to is what the parts refer to.
-/

namespace KnowledgeGraph.Graph

def isNameChar (c : Char) : Bool := c.isAlphanum || c == '_'

/-- The parameters that a text refers to. `inside` tells whether its first character belongs to a
quoted identifier. A quote written twice ends the identifier and begins it anew, which comes to
the same. -/
def placeholders (inside : Bool) : List Char → List String
  | [] => []
  | c :: cs =>
    if inside = false ∧ c = '$' then
      String.ofList (cs.takeWhile isNameChar) :: placeholders inside cs
    else placeholders (inside ^^ c == '\x60') cs

def endsInside (inside : Bool) : List Char → Bool
  | [] => inside
  | c :: cs => endsInside (inside ^^ c == '\x60') cs

def RefersTo (cs : List Char) (names : List String) : Prop :=
  endsInside false cs = false ∧ placeholders false cs = names

instance : Decidable (RefersTo cs names) :=
  inferInstanceAs (Decidable (endsInside false cs = false ∧ placeholders false cs = names))

def PiecesReferTo (pieces : List (List Char)) (names : List String) : Prop :=
  (∀ cs ∈ pieces, endsInside false cs = false) ∧ pieces.flatMap (placeholders false) = names

instance : Decidable (PiecesReferTo pieces names) :=
  inferInstanceAs (Decidable (_ ∧ pieces.flatMap (placeholders false) = names))

/-- The text does not go on with a name that stands before it. -/
def Apart (cs : List Char) : Prop := ∀ c ∈ cs.head?, isNameChar c = false

instance : DecidablePred Apart
  | [] => .isTrue (by simp [Apart])
  | c :: _ => decidable_of_iff (isNameChar c = false) (by simp [Apart])

-- ---------------------------------------------------------------------------
-- Two texts
-- ---------------------------------------------------------------------------

theorem endsInside_append :
    endsInside inside (cs ++ rest) = endsInside (endsInside inside cs) rest := by
  induction cs generalizing inside with
  | nil => rfl
  | cons c cs ih => exact ih

theorem takeWhile_append_of_apart (h : Apart rest) :
    (cs ++ rest).takeWhile isNameChar = cs.takeWhile isNameChar := by
  induction cs with
  | nil =>
    cases rest with
    | nil => rfl
    | cons c cs =>
      have : isNameChar c = false := h c rfl
      simp [this]
  | cons c cs ih => simp [List.takeWhile_cons, ih]

theorem placeholders_append (h : Apart rest) :
    placeholders inside (cs ++ rest) =
      placeholders inside cs ++ placeholders (endsInside inside cs) rest := by
  induction cs generalizing inside with
  | nil => rfl
  | cons c cs ih =>
    simp only [List.cons_append, placeholders, endsInside]
    split
    · next hc =>
      obtain ⟨rfl, rfl⟩ := hc
      rw [takeWhile_append_of_apart h, ih]
      rfl
    · exact ih

theorem placeholders_append_of_nil (h : placeholders inside cs = []) :
    placeholders inside (cs ++ rest) = placeholders (endsInside inside cs) rest := by
  induction cs generalizing inside with
  | nil => rfl
  | cons c cs ih =>
    simp only [List.cons_append, placeholders, endsInside] at h ⊢
    split
    · next hc => simp [hc] at h
    · next hc =>
      rw [if_neg hc] at h
      exact ih h

theorem RefersTo.append (ha : RefersTo cs names) (hb : RefersTo rest more)
    (h : names = [] ∨ Apart rest) : RefersTo (cs ++ rest) (names ++ more) := by
  obtain ⟨ha, rfl⟩ := ha
  obtain ⟨hb, rfl⟩ := hb
  rw [RefersTo, endsInside_append, ha]
  refine ⟨hb, ?_⟩
  rcases h with h | h
  · rw [placeholders_append_of_nil h, ha, h]
    rfl
  · rw [placeholders_append h, ha]

-- ---------------------------------------------------------------------------
-- Pieces
-- ---------------------------------------------------------------------------

theorem PiecesReferTo.cons (h : RefersTo cs names) (hs : PiecesReferTo pieces more) :
    PiecesReferTo (cs :: pieces) (names ++ more) := by
  obtain ⟨h, rfl⟩ := h
  obtain ⟨hs, rfl⟩ := hs
  exact ⟨by simpa [h] using hs, rfl⟩

theorem PiecesReferTo.nil : PiecesReferTo [] [] := ⟨by simp, rfl⟩

theorem RefersTo.piece (h : RefersTo cs names) : PiecesReferTo [cs] names := by
  simpa using PiecesReferTo.cons h .nil

theorem piecesReferTo_cons_iff : PiecesReferTo (cs :: pieces) names ↔
    ∃ first more, RefersTo cs first ∧ PiecesReferTo pieces more ∧ names = first ++ more := by
  constructor
  · rintro ⟨h, rfl⟩
    rw [List.forall_mem_cons] at h
    exact ⟨_, _, ⟨h.1, rfl⟩, ⟨h.2, rfl⟩, rfl⟩
  · rintro ⟨first, more, h, hs, rfl⟩
    exact .cons h hs

theorem PiecesReferTo.append (ha : PiecesReferTo pieces names) (hb : PiecesReferTo others more) :
    PiecesReferTo (pieces ++ others) (names ++ more) := by
  obtain ⟨ha, rfl⟩ := ha
  obtain ⟨hb, rfl⟩ := hb
  refine ⟨fun cs hcs => ?_, List.flatMap_append⟩
  rcases List.mem_append.mp hcs with hcs | hcs
  · exact ha cs hcs
  · exact hb cs hcs

theorem PiecesReferTo.intercalate (h : PiecesReferTo pieces names) (hsep : RefersTo sep [])
    (hne : sep ≠ []) (hapart : Apart sep) : RefersTo (sep.intercalate pieces) names := by
  induction pieces generalizing names with
  | nil =>
    obtain ⟨-, rfl⟩ := h
    exact ⟨rfl, rfl⟩
  | cons cs pieces ih =>
    obtain ⟨first, more, hcs, hs, rfl⟩ := piecesReferTo_cons_iff.mp h
    cases pieces with
    | nil =>
      obtain ⟨-, rfl⟩ := hs
      simpa using hcs
    | cons next pieces =>
      rw [List.intercalate_cons_cons, List.append_assoc]
      have hrest : RefersTo (sep ++ sep.intercalate (next :: pieces)) more :=
        hsep.append (ih hs) (.inl rfl)
      refine hcs.append hrest (.inr ?_)
      cases sep with
      | nil => exact absurd rfl hne
      | cons c sep => simpa [Apart] using hapart

-- ---------------------------------------------------------------------------
-- Texts without parameters
-- ---------------------------------------------------------------------------

theorem refersTo_nil_of_plain (h : ∀ c ∈ cs, c ≠ '$' ∧ c ≠ '\x60') : RefersTo cs [] := by
  induction cs with
  | nil => exact ⟨rfl, rfl⟩
  | cons c cs ih =>
    obtain ⟨⟨hd, hq⟩, hcs⟩ := List.forall_mem_cons.mp h
    have hq : (c == '\x60') = false := by simpa using hq
    simpa [RefersTo, placeholders, endsInside, hd, hq] using ih hcs

theorem isDigit_of_mem_repr (h : c ∈ (Nat.repr n).toList) : c.isDigit = true := by
  rw [Nat.repr, String.toList_ofList] at h
  exact Nat.isDigit_of_mem_toDigits (by decide) (by decide) h

theorem refersTo_repr (n : Nat) : RefersTo (Nat.repr n).toList [] := by
  apply refersTo_nil_of_plain
  intro c hc
  constructor <;> rintro rfl <;> exact absurd (isDigit_of_mem_repr hc) (by decide)

theorem placeholders_doubleBackticks (cs : List Char) :
    placeholders true (doubleBackticks cs) = [] ∧ endsInside true (doubleBackticks cs) = true := by
  induction cs with
  | nil => exact ⟨rfl, rfl⟩
  | cons c cs ih =>
    by_cases hc : c = '\x60'
    · simpa [doubleBackticks, hc, placeholders, endsInside] using ih
    · have hq : (c == '\x60') = false := by simpa using hc
      simpa [doubleBackticks, hc, hq, placeholders, endsInside] using ih

theorem refersTo_quote (h : quote name = .ok quoted) : RefersTo quoted.toList [] := by
  obtain ⟨-, rfl⟩ := quote_eq_ok_iff.mp h
  obtain ⟨hp, he⟩ := placeholders_doubleBackticks (Text.trimChars name.toList)
  rw [RefersTo, String.toList_ofList, quoteChars]
  constructor
  · simp [endsInside, endsInside_append, he]
  · simp [placeholders, placeholders_append_of_nil hp, he]

theorem refersTo_labelExpression (h : labelExpression labels = .ok text) :
    RefersTo text.toList [] := by
  induction labels generalizing text with
  | nil =>
    obtain rfl : "" = text := by simpa [labelExpression] using h
    exact ⟨rfl, rfl⟩
  | cons label labels ih =>
    obtain ⟨quoted, rest, hq, hr, rfl⟩ := labelExpression_cons_eq_ok_iff.mp h
    have hcolon : RefersTo [':'] [] := ⟨rfl, rfl⟩
    simpa [String.toList_append] using
      hcolon.append ((refersTo_quote hq).append (ih hr) (.inl rfl)) (.inl rfl)

/-- An identifier or a number in the middle of a line. -/
theorem refersTo_around {before middle after : String} (hb : RefersTo before.toList [])
    (hm : RefersTo middle.toList []) (ha : RefersTo after.toList names) :
    RefersTo (before ++ middle ++ after).toList names := by
  rw [String.toList_append, String.toList_append]
  exact (hb.append hm (.inl rfl)).append ha (.inl rfl)

-- ---------------------------------------------------------------------------
-- Statements
-- ---------------------------------------------------------------------------

/-- The text of a statement refers to the parameters that are bound, to all of them and to no
others. -/
def Statement.Bound (s : Statement) : Prop :=
  ∀ name, name ∈ placeholders false s.text.toList ↔ name ∈ s.params.map (·.1)

/-- The law of all statements that are put together from lines. -/
theorem bound_ofLines {lines : List String} (h : PiecesReferTo (lines.map String.toList) names)
    (hn : ∀ name, name ∈ names ↔ name ∈ pairs.map (·.1)) :
    (Statement.ofLines lines pairs columns).Bound := by
  intro name
  have hsep : RefersTo ['\n'] [] := ⟨rfl, rfl⟩
  obtain ⟨-, hp⟩ := h.intercalate hsep (by decide) (by decide)
  rw [Statement.ofLines, String.toList_intercalate, Json.Members.mem_keys_ofPairs, ← hn, ← hp]
  rfl

theorem bound_ofLines_of_subset {lines : List String} {pairs : List (String × Json)}
    (h : (∀ cs ∈ lines.map String.toList, endsInside false cs = false) ∧
      (lines.map String.toList).flatMap (placeholders false) ⊆ pairs.map (·.1) ∧
      pairs.map (·.1) ⊆ (lines.map String.toList).flatMap (placeholders false)) :
    (Statement.ofLines lines pairs columns).Bound := by
  obtain ⟨hl, hn, hp⟩ := h
  exact bound_ofLines ⟨hl, rfl⟩ fun _ => ⟨fun hm => hn hm, fun hm => hp hm⟩

end KnowledgeGraph.Graph
