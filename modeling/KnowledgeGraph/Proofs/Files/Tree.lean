import KnowledgeGraph.Files.Tree
import KnowledgeGraph.Proofs.Text.Separator

/-!
# What folders hold

Files by the names that lead to them, and the same folders listed in another order.
-/

namespace KnowledgeGraph.Files

-- ---------------------------------------------------------------------------
-- Names
-- ---------------------------------------------------------------------------

def IsName (name : String) : Prop := name ≠ "" ∧ '/' ∉ name.toList

theorem extension?_eq_some_iff {name extension : String} :
    extension? name = some extension ↔
      '.' ∉ extension.toList ∧ ∃ stem, stem ≠ "" ∧ name = stem ++ "." ++ extension := by
  constructor
  · intro h
    by_cases hdot : '.' ∈ name.toList.reverse
    · obtain ⟨after, before, hname, hafter⟩ := List.eq_append_cons_of_mem hdot
      rw [extension?, hname, Text.span_append_cons hafter] at h
      cases before with
      | nil => cases h
      | cons last before =>
        cases h
        refine ⟨by simpa using hafter, String.ofList (last :: before).reverse, by simp, ?_⟩
        rw [← String.toList_inj, ← List.reverse_inj, hname]
        simp
    · rw [extension?, Text.span_of_not_mem hdot] at h
      cases h
  · rintro ⟨hdot, stem, hstem, rfl⟩
    obtain ⟨c, cs, hreverse⟩ := List.exists_cons_of_ne_nil
      (mt List.reverse_eq_nil_iff.1 (mt String.toList_eq_nil_iff.1 hstem))
    have hname : (stem ++ "." ++ extension).toList.reverse =
        extension.toList.reverse ++ '.' :: c :: cs := by
      simp [hreverse]
    rw [extension?, hname, Text.span_append_cons (by simpa using hdot)]
    simp

def lead (path : String) : String :=
  if path.isEmpty || path.endsWith "/" then path else path ++ "/"

theorem join_eq_lead (path name : String) : join path name = lead path ++ name := by
  cases hempty : path.isEmpty <;> cases hends : path.endsWith "/" <;> simp_all [join, lead]

theorem lead_append_of_isName (h : IsName name) (path : String) :
    lead (path ++ name) = path ++ name ++ "/" := by
  have hends : (path ++ name).endsWith "/" = false := by
    rw [Bool.eq_false_iff, String.endsWith_eq_endsWith_toSlice, ne_eq,
      String.Slice.endsWith_string_iff]
    intro hsuffix
    have hlast : name.toList.getLast? = some '/' := by
      simpa [Text.singleton_suffix_iff, h.1] using hsuffix
    exact h.2 (List.mem_of_getLast? hlast)
  simp [lead, hends, h.1]

theorem foldl_join (hne : route ≠ []) (hroute : ∀ name ∈ route, IsName name) (path : String) :
    route.foldl join path = lead path ++ "/".intercalate route := by
  induction route generalizing path with
  | nil => exact absurd rfl hne
  | cons name route ih =>
    obtain ⟨hname, hrest⟩ := List.forall_mem_cons.1 hroute
    cases route with
    | nil => simp [join_eq_lead]
    | cons next route =>
      rw [List.foldl_cons, ih (List.cons_ne_nil next route) hrest, join_eq_lead,
        lead_append_of_isName hname, String.intercalate_cons_cons]
      simp [String.append_assoc]

theorem split_intercalate (hne : route ≠ []) (hroute : ∀ name ∈ route, IsName name) :
    Text.split '/' ("/".intercalate route) = route :=
  Text.split_eq_iff.2 ⟨hne, fun name hname => (hroute name hname).2, rfl⟩

theorem foldl_join_inj (hne : route ≠ []) (hne' : route' ≠ [])
    (hroute : ∀ name ∈ route, IsName name) (hroute' : ∀ name ∈ route', IsName name)
    (h : route.foldl join path = route'.foldl join path) : route = route' := by
  rw [foldl_join hne hroute, foldl_join hne' hroute', String.append_right_inj] at h
  rw [← split_intercalate hne hroute, h, split_intercalate hne' hroute']

-- ---------------------------------------------------------------------------
-- Folders
-- ---------------------------------------------------------------------------

namespace Folder

def names (f : Folder) : List String := f.entries.map (·.1)

/-- These names lead to a file, of which this is what reading gives. -/
inductive Holds : Folder → List String → Except Fault ByteArray → Prop where
  | file : (name, entry) ∈ f.entries → entry.content? = some content → Holds f [name] content
  | inside : (name, Entry.folder g) ∈ f.entries → Holds g route content →
      Holds f (name :: route) content

/-- The same, with each folder listed in some other order. -/
inductive Relisted : Folder → Folder → Prop where
  | refl : Relisted f f
  | swap : Relisted (.cons name entry (.cons name' entry' rest))
      (.cons name' entry' (.cons name entry rest))
  | rest : Relisted f g → Relisted (.cons name entry f) (.cons name entry g)
  | inside : Relisted f g → Relisted (.cons name (.folder f) rest) (.cons name (.folder g) rest)
  | trans : Relisted f g → Relisted g h → Relisted f h

end Folder

mutual
/-- Everything can be listed, and entries are told apart by their names. -/
def Entry.Proper : Entry → Prop
  | .file _ | .closedFile _ => True
  | .folder f => f.Proper
  | .closedFolder _ => False
def Folder.Proper : Folder → Prop
  | .nil => True
  | .cons name entry rest => IsName name ∧ name ∉ rest.names ∧ entry.Proper ∧ rest.Proper
  | .torn _ => False
end

namespace Folder

@[simp] theorem names_cons : (cons name entry rest).names = name :: rest.names := rfl

@[simp] theorem entries_cons : (cons name entry rest).entries = (name, entry) :: rest.entries := rfl

theorem not_holds_nil {f : Folder} : ¬ f.Holds [] content := nofun

theorem holds_cons_iff {f : Folder} : f.Holds (name :: route) content ↔
    (route = [] ∧ ∃ entry, (name, entry) ∈ f.entries ∧ entry.content? = some content) ∨
      ∃ g, (name, Entry.folder g) ∈ f.entries ∧ g.Holds route content := by
  constructor
  · rintro (⟨hmem, hcontent⟩ | ⟨hmem, hholds⟩)
    · exact .inl ⟨rfl, _, hmem, hcontent⟩
    · exact .inr ⟨_, hmem, hholds⟩
  · rintro (⟨rfl, entry, hmem, hcontent⟩ | ⟨g, hmem, hholds⟩)
    · exact .file hmem hcontent
    · exact .inside hmem hholds

-- The recursion of folders goes through their entries, so that each kind of entry is a case.
theorem forall_inner {P : Folder → Prop}
    (step : ∀ f : Folder, (∀ name g, (name, Entry.folder g) ∈ f.entries → P g) → P f) :
    (f : Folder) → ∀ name g, (name, Entry.folder g) ∈ f.entries → P g
  | .cons _ (.folder f) rest, name, g, hmem => by
    rcases List.mem_cons.1 hmem with hfirst | hlater
    · cases hfirst
      exact step f (forall_inner step f)
    · exact forall_inner step rest name g hlater
  | .cons _ (.file _) rest, name, g, hmem
  | .cons _ (.closedFile _) rest, name, g, hmem
  | .cons _ (.closedFolder _) rest, name, g, hmem =>
    forall_inner step rest name g ((List.mem_cons.1 hmem).resolve_left nofun)

theorem induction {P : Folder → Prop} (f : Folder)
    (step : ∀ f : Folder, (∀ name g, (name, Entry.folder g) ∈ f.entries → P g) → P f) : P f :=
  step f (forall_inner step f)

variable {f g : Folder}

theorem Proper.tear?_eq_none : {f : Folder} → f.Proper → f.tear? = none
  | .nil, _ => rfl
  | .cons _ _ _, ⟨_, _, _, hrest⟩ => (tear?_eq_none hrest :)

theorem Proper.nodup_names : {f : Folder} → f.Proper → f.names.Nodup
  | .nil, _ => .nil
  | .cons _ _ _, ⟨_, hfirst, _, hrest⟩ => List.nodup_cons.2 ⟨hfirst, nodup_names hrest⟩

theorem Proper.of_mem : {f : Folder} → f.Proper → (name, entry) ∈ f.entries →
    IsName name ∧ entry.Proper
  | .cons _ _ _, ⟨hname, _, hentry, hrest⟩, hmem => by
    rcases List.mem_cons.1 hmem with hfirst | hlater
    · cases hfirst
      exact ⟨hname, hentry⟩
    · exact of_mem hrest hlater

theorem Proper.of_holds (h : f.Proper) (hholds : f.Holds route content) :
    route ≠ [] ∧ ∀ name ∈ route, IsName name := by
  induction hholds with
  | file hmem => exact ⟨List.cons_ne_nil _ _, List.forall_mem_singleton.2 (h.of_mem hmem).1⟩
  | inside hmem _ ih =>
    obtain ⟨hname, hinner⟩ := h.of_mem hmem
    exact ⟨List.cons_ne_nil _ _, List.forall_mem_cons.2 ⟨hname, (ih hinner).2⟩⟩

-- ---------------------------------------------------------------------------
-- Listing in another order
-- ---------------------------------------------------------------------------

theorem Relisted.perm_names (h : f.Relisted g) : f.names.Perm g.names := by
  induction h with
  | refl => exact .refl _
  | swap => exact .swap _ _ _
  | rest _ ih => exact ih.cons _
  | inside => exact .refl _
  | trans _ _ ih ih' => exact ih.trans ih'

theorem Relisted.proper (h : f.Relisted g) (hf : f.Proper) : g.Proper := by
  induction h with
  | refl => exact hf
  | swap =>
    obtain ⟨hname, hfirst, hentry, hname', hsecond, hentry', hrest⟩ := hf
    rw [names_cons, List.mem_cons, not_or] at hfirst
    exact ⟨hname', by simp [Ne.symm hfirst.1, hsecond], hentry', hname, hfirst.2, hentry, hrest⟩
  | rest hrelisted ih =>
    obtain ⟨hname, hfirst, hentry, hrest⟩ := hf
    exact ⟨hname, mt hrelisted.perm_names.mem_iff.2 hfirst, hentry, ih hrest⟩
  | inside _ ih =>
    obtain ⟨hname, hfirst, hinner, hrest⟩ := hf
    exact ⟨hname, hfirst, ih hinner, hrest⟩
  | trans _ _ ih ih' => exact ih' (ih hf)

/-- What an entry that is listed first adds. -/
theorem holds_entry_cons_iff : (cons name entry f).Holds route content ↔
    (route = [name] ∧ entry.content? = some content ∨
      ∃ g inner, entry = .folder g ∧ route = name :: inner ∧ g.Holds inner content) ∨
      f.Holds route content := by
  cases route with
  | nil => simp [not_holds_nil]
  | cons next route =>
    simp only [holds_cons_iff, entries_cons, List.mem_cons, Prod.mk.injEq]
    grind

theorem Relisted.holds_iff (h : f.Relisted g) : f.Holds route content ↔ g.Holds route content := by
  induction h generalizing route with
  | refl => rfl
  | swap =>
    simp only [holds_entry_cons_iff]
    exact or_left_comm
  | rest _ ih => simp only [holds_entry_cons_iff, ih]
  | inside _ ih => simp [holds_entry_cons_iff, ih, Entry.content?]
  | trans _ _ ih ih' => exact ih.trans ih'

end Folder

end KnowledgeGraph.Files
