import KnowledgeGraph.Json.Writer
import KnowledgeGraph.Proofs.Wire.Numeral
import KnowledgeGraph.Wire.Reader

/-!
# JSON text reads back

What is written of a value without floats is read as that value, and the reader stops where the
writer did.
-/

namespace KnowledgeGraph

namespace Json

mutual
/-- Whether every number is a whole one of 64 bits. -/
def isIntegral : Json → Bool
  | .num (.int n) => decide (minInt64 ≤ n ∧ n ≤ maxNat64)
  | .num (.float _) => false
  | .arr items => allIntegral items
  | .obj ms => allMembersIntegral ms
  | _ => true
def allIntegral : List Json → Bool
  | [] => true
  | v :: vs => v.isIntegral && allIntegral vs
def allMembersIntegral : List (String × Json) → Bool
  | [] => true
  | (_, v) :: ms => v.isIntegral && allMembersIntegral ms
end

end Json

namespace Wire

namespace Reader

open Json (escape hexDigit writeString writeInt write writeItems writeMembers isIntegral
  allIntegral allMembersIntegral)

-- ---------------------------------------------------------------------------
-- Strings
-- ---------------------------------------------------------------------------

theorem hexDigit?_hexDigit : ∀ n < 16, hexDigit? (some (hexDigit n)) = some n := by
  decide

theorem string_escape (c : Char) (rest : List Char) (fuel : Nat) (acc : List Char) :
    string (fuel + 1) ((escape c ++ rest).map some) acc true =
      string fuel (rest.map some) (c :: acc) true := by
  by_cases hshort : c ∈ ['"', '\\', '\n', '\r', '\t', '\x08', '\x0c']
  · simp only [List.mem_cons, List.not_mem_nil, or_false] at hshort
    rcases hshort with rfl | rfl | rfl | rfl | rfl | rfl | rfl <;>
      simp [escape, string, plainEscape?]
  simp only [List.mem_cons, List.not_mem_nil, or_false, not_or] at hshort
  obtain ⟨hquote, hbackslash, hn, hr, ht, hb, hf⟩ := hshort
  rw [escape, if_neg hquote, if_neg hbackslash, if_neg hn, if_neg hr, if_neg ht, if_neg hb,
    if_neg hf]
  split
  · next h =>
    have hzero : hexDigit? (some '0') = some 0 := rfl
    have hhigh := hexDigit?_hexDigit (c.toNat / 16) (by omega)
    have hlow := hexDigit?_hexDigit (c.toNat % 16) (by omega)
    have hsum : c.toNat / 16 * 16 + c.toNat % 16 = c.toNat := Nat.div_add_mod' _ _
    have hhalf : isLowSurrogate c.toNat = false ∧ isHighSurrogate c.toNat = false := by
      simp only [isLowSurrogate, isHighSurrogate, Bool.and_eq_false_iff, decide_eq_false_iff_not]
      omega
    simp [string, hex4?, hzero, hhigh, hlow, hsum, hhalf]
  · next h => simp [string, hbackslash, h]

/-- What is written of a text is read as the text, up to its closing quote. -/
theorem string_quoted {cs : List Char} {fuel : Nat} (hfuel : cs.length < fuel)
    (rest acc : List Char) :
    string fuel ((cs.foldr (fun c r => escape c ++ r) ('"' :: rest)).map some) acc true =
      some (some (String.ofList (acc.reverse ++ cs)), rest.map some) := by
  induction cs generalizing fuel acc with
  | nil =>
    obtain ⟨fuel, rfl⟩ : ∃ n, fuel = n + 1 := ⟨fuel - 1, by omega⟩
    simp [string]
  | cons c cs ih =>
    obtain ⟨fuel, rfl⟩ : ∃ n, fuel = n + 1 := ⟨fuel - 1, by omega⟩
    rw [List.foldr_cons, string_escape, ih (Nat.lt_of_succ_lt_succ hfuel), List.reverse_cons,
      List.append_assoc, List.singleton_append]

theorem length_le_length_quoted (cs rest : List Char) :
    cs.length + rest.length < (cs.foldr (fun c r => escape c ++ r) ('"' :: rest)).length := by
  induction cs with
  | nil => simp
  | cons c cs ih =>
    have hc : 0 < (escape c).length := by
      unfold escape
      repeat' split
      all_goals simp
    simp only [List.foldr_cons, List.length_append, List.length_cons]
    omega

-- ---------------------------------------------------------------------------
-- Lengths
-- ---------------------------------------------------------------------------

theorem length_jsonChars_pos (x : Binary64) : 0 < x.jsonChars.length := by
  have hdigits : 0 < (Binary64.decimalDigits x.shortest.digits).length := by
    rw [Binary64.decimalDigits, Nat.toList_repr]
    exact Nat.length_toDigits_pos
  have hsigned {body : List Char} (h : 0 < body.length) : 0 < (Binary64.signed x body).length := by
    unfold Binary64.signed
    split <;> simp [h]
  unfold Binary64.jsonChars
  dsimp only
  split
  · refine hsigned ?_
    unfold Binary64.positional
    dsimp only
    repeat' split
    all_goals
      simp only [List.length_append, List.length_cons]
      omega
  · refine hsigned ?_
    simp only [Binary64.scientific, List.length_append, List.length_cons]
    omega

mutual
theorem length_lt_length_write : (j : Json) → (rest : List Char) →
    rest.length < (write j rest).length
  | .null, rest | .bool true, rest | .bool false, rest => by
    simp only [write, List.length_cons]
    omega
  | .num (.int n), rest => by
    have := Nat.length_toDigits_pos (b := 10) (n := n.natAbs)
    simp only [write, Json.Number.write, writeInt, Binary64.decimalDigits, Nat.toList_repr,
      List.length_append]
    omega
  | .num (.float x), rest => by
    have := length_jsonChars_pos x
    rw [write, Json.Number.write, List.length_append]
    split
    · omega
    · simp only [List.length_cons]
      omega
  | .str s, rest => by
    have := length_le_length_quoted s.toList rest
    simp only [write, writeString, List.length_cons]
    omega
  | .arr [], rest | .obj [], rest => by
    simp only [write, List.length_cons]
    omega
  | .arr (v :: vs), rest => by
    have hvs := length_le_length_writeItems vs (']' :: rest)
    have hv := length_lt_length_write v (writeItems vs (']' :: rest))
    simp only [write, List.length_cons] at hvs ⊢
    omega
  | .obj ((k, v) :: ms), rest => by
    have hms := length_le_length_writeMembers ms ('\x7d' :: rest)
    have hv := length_lt_length_write v (writeMembers ms ('\x7d' :: rest))
    have hk := length_le_length_quoted k.toList (':' :: write v (writeMembers ms ('\x7d' :: rest)))
    simp only [write, writeString, List.length_cons] at hms hk ⊢
    omega
theorem length_le_length_writeItems : (vs : List Json) → (rest : List Char) →
    rest.length ≤ (writeItems vs rest).length
  | [], rest => by simp [writeItems]
  | v :: vs, rest => by
    have hvs := length_le_length_writeItems vs rest
    have hv := length_lt_length_write v (writeItems vs rest)
    simp only [writeItems, List.length_cons]
    omega
theorem length_le_length_writeMembers : (ms : List (String × Json)) → (rest : List Char) →
    rest.length ≤ (writeMembers ms rest).length
  | [], rest => by simp [writeMembers]
  | (k, v) :: ms, rest => by
    have hms := length_le_length_writeMembers ms rest
    have hv := length_lt_length_write v (writeMembers ms rest)
    have hk := length_le_length_quoted k.toList (':' :: write v (writeMembers ms rest))
    simp only [writeMembers, writeString, List.length_cons] at hk ⊢
    omega
end

-- ---------------------------------------------------------------------------
-- Steps of the reader
-- ---------------------------------------------------------------------------

theorem string_of_writeString {s : String} {rest : List Char} {gs : List Glyph}
    (h : (writeString s rest).map some = some '"' :: gs) :
    string (gs.length + 1) gs [] true = some (some s, rest.map some) := by
  rw [writeString, List.map_cons, List.cons.injEq] at h
  obtain ⟨-, rfl⟩ := h
  have hlength := length_le_length_quoted s.toList rest
  rw [string_quoted (by rw [List.length_map]; omega), List.reverse_nil, List.nil_append,
    String.ofList_toList]

theorem exists_toDigits_eq_cons (n : Nat) :
    ∃ c cs, Nat.toDigits 10 n = c :: cs ∧ c.isDigit = true := by
  obtain ⟨c, cs, hcs⟩ := List.exists_cons_of_ne_nil (Nat.toDigits_ne_nil (b := 10) (n := n))
  refine ⟨c, cs, hcs, Nat.isDigit_of_mem_toDigits (b := 10) (n := n) (by decide) (by decide) ?_⟩
  rw [hcs]
  exact List.mem_cons_self

theorem not_mem_of_isDigit {c : Char} (hc : c.isDigit = true) {cs : List Char}
    (h : cs.any (·.isDigit) = false) : c ∉ cs := by
  intro hmem
  rw [List.any_eq_false] at h
  exact h c hmem hc

section
variable (fuel : Nat) (gs : List Glyph)

theorem value_quote {s : String} {rest : List Glyph}
    (h : string (gs.length + 1) gs [] true = some (some s, rest)) :
    value (fuel + 1) (some '"' :: gs) = (.str s, rest) := by
  simp [value, skipBlanks, h]

theorem value_minus : value (fuel + 1) (some '-' :: gs) =
    (Numeral.read true gs).getD (.broken, []) := by
  simp [value, skipBlanks]

theorem value_digit {c : Char} (hc : c.isDigit = true) :
    value (fuel + 1) (some c :: gs) = (Numeral.read false (some c :: gs)).getD (.broken, []) := by
  have hne : c ∉ [' ', '\n', '\t', '\r', 'n', 't', 'f', '"', '[', '\x7b', '-'] :=
    not_mem_of_isDigit hc (by decide)
  simp only [List.mem_cons, List.not_mem_nil, or_false, not_or] at hne
  simp [value, skipBlanks, hne]

theorem value_bracket {c : Char} (hc : c ∉ [' ', '\n', '\t', '\r', ']']) :
    value (fuel + 1) (some '[' :: some c :: gs) =
      (.list (items fuel (some c :: gs)).1, (items fuel (some c :: gs)).2) := by
  simp only [List.mem_cons, List.not_mem_nil, or_false, not_or] at hc
  simp [value, skipBlanks, hc]

theorem value_brace :
    value (fuel + 1) (some '\x7b' :: some '"' :: gs) =
      (.object (members fuel (some '"' :: gs)).1, (members fuel (some '"' :: gs)).2) := by
  simp [value, skipBlanks]

theorem items_last {v : Source} {rest : List Glyph} (h : value fuel gs = (v, some ']' :: rest)) :
    items (fuel + 1) gs = ([v], rest) := by
  simp [items, h, skipBlanks]

theorem items_more {v : Source} {rest : List Glyph} (h : value fuel gs = (v, some ',' :: rest)) :
    items (fuel + 1) gs = (v :: (items fuel rest).1, (items fuel rest).2) := by
  simp [items, h, skipBlanks]

theorem members_last {key : Option String} {after : List Glyph} {v : Source} {rest : List Glyph}
    (hkey : string (gs.length + 1) gs [] true = some (key, some ':' :: after))
    (h : value fuel after = (v, some '\x7d' :: rest)) :
    members (fuel + 1) (some '"' :: gs) = ([(key, v)], rest) := by
  simp [members, hkey, h, skipBlanks]

theorem members_more {key : Option String} {after : List Glyph} {v : Source} {rest : List Glyph}
    (hkey : string (gs.length + 1) gs [] true = some (key, some ':' :: after))
    (h : value fuel after = (v, some ',' :: rest)) :
    members (fuel + 1) (some '"' :: gs) =
      ((key, v) :: (members fuel rest).1, (members fuel rest).2) := by
  simp [members, hkey, h, skipBlanks]

end

theorem value_str (s : String) (fuel : Nat) (rest : List Char) :
    value (fuel + 1) ((write (.str s) rest).map some) = (.str s, rest.map some) := by
  rw [write, writeString, List.map_cons, value_quote _ _ (string_of_writeString rfl)]

theorem value_int {n : Int} (hlow : minInt64 ≤ n) (hhigh : n ≤ maxNat64) {rest : List Char}
    (hrest : Numeral.Ends rest) (fuel : Nat) :
    value (fuel + 1) ((write (.num (.int n)) rest).map some) = (.num (.int n), rest.map some) := by
  have hmax : n.natAbs ≤ maxNat64 := by
    simp only [maxNat64, minInt64] at *
    omega
  have hread (negative : Bool) := Numeral.read_toDigits hmax hrest negative
  rw [write, Json.Number.write, writeInt, Binary64.decimalDigits, Nat.toList_repr]
  split
  · next h =>
    have hmin : n.natAbs ≤ 0x8000000000000000 := by
      simp only [minInt64] at hlow
      omega
    rw [List.append_assoc, List.singleton_append, List.map_cons, value_minus, hread,
      Numeral.ofDigits_negative (by omega) hmin, show (-(n.natAbs : Int)) = n by omega]
    rfl
  · next h =>
    obtain ⟨c, cs, hcs, hc⟩ := exists_toDigits_eq_cons n.natAbs
    have hnatural := hread false
    rw [Numeral.ofDigits_natural hmax, show (n.natAbs : Int) = n by omega, hcs] at hnatural
    rw [List.nil_append, hcs]
    rw [List.cons_append, List.map_cons] at hnatural ⊢
    rw [value_digit fuel _ hc, hnatural]
    rfl

/-- A value starts with a character that is neither blank nor a closing bracket. -/
theorem exists_write_eq_cons {j : Json} (hint : isIntegral j = true) (rest : List Char) :
    ∃ c cs, write j rest = c :: cs ∧ c ∉ [' ', '\n', '\t', '\r', ']'] := by
  match j with
  | .null | .bool true | .bool false | .arr [] | .arr (_ :: _) | .obj [] | .obj ((_, _) :: _) =>
    exact ⟨_, _, write.eq_def .., by decide⟩
  | .str s => exact ⟨_, _, by rw [write, writeString], by decide⟩
  | .num (.int n) =>
    rw [write, Json.Number.write, writeInt, Binary64.decimalDigits, Nat.toList_repr]
    split
    · exact ⟨_, _, rfl, by decide⟩
    · obtain ⟨c, cs, hcs, hc⟩ := exists_toDigits_eq_cons n.natAbs
      exact ⟨c, cs ++ rest, by rw [hcs]; rfl, not_mem_of_isDigit hc (by decide)⟩

theorem ends_writeItems (vs : List Json) (rest : List Char) :
    Numeral.Ends (writeItems vs (']' :: rest)) := by
  cases vs with
  | nil => exact Numeral.ends_cons (by decide) rest
  | cons v vs => exact Numeral.ends_cons (by decide) _

theorem ends_writeMembers (ms : List (String × Json)) (rest : List Char) :
    Numeral.Ends (writeMembers ms ('\x7d' :: rest)) := by
  cases ms with
  | nil => exact Numeral.ends_cons (by decide) rest
  | cons m ms => exact Numeral.ends_cons (by decide) _

-- ---------------------------------------------------------------------------
-- Values
-- ---------------------------------------------------------------------------

-- The induction is on the fuel, of which the reader has two for each character that the value is
-- written with: one for the value and one for the list or the object it stands in.
mutual
/-- The reader gives back what was written and goes on where the writer did. -/
theorem value_write : (j : Json) → isIntegral j = true → (rest : List Char) → Numeral.Ends rest →
    (fuel : Nat) → 2 * (write j rest).length ≤ fuel + 2 * rest.length →
    value fuel ((write j rest).map some) = (.ofJson j, rest.map some)
  | j, _, rest, _, 0, hfuel => by
    have := length_lt_length_write j rest
    omega
  | .null, _, rest, _, fuel + 1, _ => by
    simp [write, value, value.word, isWord, skipBlanks, Source.ofJson]
  | .bool b, _, rest, _, fuel + 1, _ => by
    cases b <;> simp [write, value, value.word, isWord, skipBlanks, Source.ofJson]
  | .num (.int n), hint, rest, hrest, fuel + 1, _ => by
    simp only [isIntegral, decide_eq_true_eq] at hint
    rw [value_int hint.1 hint.2 hrest, Source.ofJson]
  | .num (.float x), hint, _, _, _, _ => by simp [isIntegral] at hint
  | .str s, _, rest, _, fuel + 1, _ => by rw [value_str, Source.ofJson]
  | .arr [], _, rest, _, fuel + 1, _ => by
    simp [write, value, skipBlanks, Source.ofJson, Source.ofItems]
  | .arr (v :: vs), hint, rest, _, fuel + 1, hfuel => by
    rw [isIntegral] at hint
    have hfirst := hint
    rw [allIntegral, Bool.and_eq_true] at hfirst
    obtain ⟨c, cs, hcs, hc⟩ := exists_write_eq_cons hfirst.1 (writeItems vs (']' :: rest))
    rw [write, List.length_cons] at hfuel
    have hitems := items_write v vs hint rest fuel (by omega)
    rw [write, List.map_cons]
    rw [hcs, List.map_cons] at hitems ⊢
    rw [value_bracket fuel _ hc, hitems, Source.ofJson]
  | .obj [], _, rest, _, fuel + 1, _ => by
    simp [write, value, skipBlanks, Source.ofJson, Source.ofMembers]
  | .obj ((k, v) :: ms), hint, rest, _, fuel + 1, hfuel => by
    rw [isIntegral] at hint
    rw [write, List.length_cons] at hfuel
    have hmembers := members_write k v ms hint rest fuel (by omega)
    rw [write, List.map_cons]
    rw [writeString, List.map_cons] at hmembers ⊢
    rw [value_brace, hmembers, Source.ofJson]
termination_by _ _ _ _ fuel => fuel
theorem items_write : (v : Json) → (vs : List Json) → allIntegral (v :: vs) = true →
    (rest : List Char) → (fuel : Nat) →
    2 * (write v (writeItems vs (']' :: rest))).length ≤ fuel + 2 * rest.length →
    items fuel ((write v (writeItems vs (']' :: rest))).map some) =
      (Source.ofItems (v :: vs), rest.map some)
  | v, vs, hint, rest, fuel, hfuel => by
    rw [allIntegral, Bool.and_eq_true] at hint
    have hitems := length_le_length_writeItems vs (']' :: rest)
    have hlength := length_lt_length_write v (writeItems vs (']' :: rest))
    rw [List.length_cons] at hitems
    obtain ⟨fuel, rfl⟩ : ∃ n, fuel = n + 1 := ⟨fuel - 1, by omega⟩
    have hv := value_write v hint.1 _ (ends_writeItems vs rest) fuel (by omega)
    cases vs with
    | nil =>
      rw [items_last fuel _ hv]
      simp only [Source.ofItems]
    | cons w vs =>
      simp only [writeItems, List.length_cons] at hfuel hlength
      rw [items_more fuel _ hv, items_write w vs hint.2 rest fuel (by omega)]
      simp only [Source.ofItems]
termination_by _ _ _ _ fuel => fuel
theorem members_write : (k : String) → (v : Json) → (ms : List (String × Json)) →
    allMembersIntegral ((k, v) :: ms) = true → (rest : List Char) → (fuel : Nat) →
    2 * (writeString k (':' :: write v (writeMembers ms ('\x7d' :: rest)))).length ≤
      fuel + 2 * rest.length →
    members fuel ((writeString k (':' :: write v (writeMembers ms ('\x7d' :: rest)))).map some) =
      (Source.ofMembers ((k, v) :: ms), rest.map some)
  | k, v, ms, hint, rest, fuel, hfuel => by
    rw [allMembersIntegral, Bool.and_eq_true] at hint
    have hmembers := length_le_length_writeMembers ms ('\x7d' :: rest)
    have hlength := length_lt_length_write v (writeMembers ms ('\x7d' :: rest))
    have hquoted := length_le_length_quoted k.toList
      (':' :: write v (writeMembers ms ('\x7d' :: rest)))
    rw [writeString] at hfuel
    simp only [List.length_cons] at hmembers hquoted hfuel
    obtain ⟨fuel, rfl⟩ : ∃ n, fuel = n + 1 := ⟨fuel - 1, by omega⟩
    have hv := value_write v hint.1 _ (ends_writeMembers ms rest) fuel (by omega)
    rw [writeString, List.map_cons]
    cases ms with
    | nil =>
      rw [members_last fuel _ (string_of_writeString rfl) hv]
      simp only [Source.ofMembers]
    | cons m ms =>
      obtain ⟨key, w⟩ := m
      simp only [writeMembers, List.length_cons] at hfuel hlength hquoted
      rw [members_more fuel _ (string_of_writeString rfl) hv,
        members_write key w ms hint.2 rest fuel (by omega)]
      simp only [Source.ofMembers]
termination_by _ _ _ _ _ fuel => fuel
end

end Reader

theorem Document.ofText_text {j : Json} (h : j.isIntegral = true) :
    Document.ofText j.text = ⟨.ofJson j, true⟩ := by
  have hread := Reader.value_write j h [] Numeral.ends_nil
    (2 * ((j.write []).map some).length + 2) (by simp)
  rw [ofText, ofGlyphs, Json.text, String.toList_ofList, hread]
  rfl

end Wire

end KnowledgeGraph
