/-!
# Cutting text

Pieces between separators, and search for a text inside another. All of it is on lists, of
characters or of bytes, so that it can be reasoned about by induction.
-/

namespace KnowledgeGraph.Text

/-- The pieces between the elements of a class; there is always at least one. -/
def splitBy (p : α → Bool) : List α → List (List α)
  | [] => [[]]
  | c :: cs =>
    match p c, splitBy p cs with
    | true, pieces => [] :: pieces
    | false, [] => [[c]]
    | false, piece :: pieces => (c :: piece) :: pieces

def split (sep : Char) (s : String) : List String :=
  (splitBy (· == sep) s.toList).map String.ofList

/-- What follows a leading text, if the text leads. -/
def dropLead? [DecidableEq α] : (lead : List α) → List α → Option (List α)
  | [], cs => some cs
  | _ :: _, [] => none
  | l :: lead, c :: cs => if l = c then dropLead? lead cs else none

theorem length_of_dropLead? [DecidableEq α] {lead cs rest : List α} (h : dropLead? lead cs = some rest) :
    cs.length = lead.length + rest.length := by
  induction lead generalizing cs with
  | nil => simp_all [dropLead?]
  | cons l lead ih =>
    cases cs with
    | nil => simp [dropLead?] at h
    | cons c cs =>
      simp only [dropLead?] at h
      split at h
      · have := ih h
        simp [this]; omega
      · simp at h

def occursIn (needle : List Char) : List Char → Bool
  | [] => needle.isEmpty
  | c :: cs => needle.isPrefixOf (c :: cs) || occursIn needle cs

def contains (s needle : String) : Bool :=
  occursIn needle.toList s.toList

def cutAt? [DecidableEq α] (needle : List α) : List α → Option (List α × List α)
  | [] => if needle.isEmpty then some ([], []) else none
  | c :: cs =>
    match dropLead? needle (c :: cs) with
    | some rest => some ([], rest)
    | none => (cutAt? needle cs).map fun (before, rest) => (c :: before, rest)

theorem length_of_cutAt? [DecidableEq α] {needle cs before rest : List α}
    (h : cutAt? needle cs = some (before, rest)) :
    cs.length = before.length + needle.length + rest.length := by
  induction cs generalizing before with
  | nil =>
    simp only [cutAt?] at h
    split at h
    · next he => simp at h; obtain ⟨rfl, rfl⟩ := h; simp_all
    · simp at h
  | cons c cs ih =>
    simp only [cutAt?] at h
    split at h
    · next rest' hd =>
      simp at h
      obtain ⟨rfl, rfl⟩ := h
      simpa using length_of_dropLead? hd
    · simp only [Option.map_eq_some_iff, Prod.exists, Prod.mk.injEq] at h
      obtain ⟨b, r, hc, rfl, rfl⟩ := h
      have := ih hc
      simp [this]; omega

/-- The pieces between the occurrences of a separator, found from the left. -/
def splitOnText (sep : List Char) (cs : List Char) : List (List Char) :=
  if _hs : sep = [] then [cs]
  else
    match _h : cutAt? sep cs with
    | none => [cs]
    | some (before, rest) => before :: splitOnText sep rest
termination_by cs.length
decreasing_by
  have := length_of_cutAt? _h
  have := List.length_pos_iff.2 _hs
  omega

def replaceText (old new : List Char) (cs : List Char) : List Char :=
  new.intercalate (splitOnText old cs)

/-- What follows a leading text, if the text leads. -/
def stripLead? (s lead : String) : Option String :=
  (dropLead? lead.toList s.toList).map String.ofList

def splitOnce? (sep : Char) (s : String) : Option (String × String) :=
  (cutAt? [sep] s.toList).map fun (before, rest) => (String.ofList before, String.ofList rest)

end KnowledgeGraph.Text
