import Mathlib.Data.List.Nodup
import KnowledgeGraph.Proofs.Files.Tree
import KnowledgeGraph.Schema.Script

/-!
# The order of scripts

The scripts of a folder are its files with the extension of a script, each once, in an order that
only their names decide.
-/

namespace KnowledgeGraph.Schema

open Files

/-- The last of the names is that of a script. -/
def IsScript (route : List String) : Prop :=
  ∃ folders stem, stem ≠ "" ∧ route = folders ++ [stem ++ "." ++ scriptExtension]

/-- Files come before what is in folders, both by their names. -/
inductive Before : List String → List String → Prop where
  | files : a < b → Before [a] [b]
  | fileFirst : below ≠ [] → Before [a] (b :: below)
  | folders : a < b → below ≠ [] → below' ≠ [] → Before (a :: below) (b :: below')
  | inside : Before below below' → Before (a :: below) (a :: below')

abbrev Located := List String × Except Fault ByteArray

def scriptAt (path : String) (file : Located) : Script := ⟨file.1.foldl join path, file.2⟩

theorem not_isScript_nil : ¬ IsScript [] := by
  rintro ⟨folders, stem, -, hroute⟩
  simp at hroute

theorem isScript_cons_iff : IsScript (name :: route) ↔
    (route = [] ∧ extension? name = some scriptExtension) ∨ IsScript route := by
  constructor
  · rintro ⟨folders, stem, hstem, hroute⟩
    cases folders with
    | nil =>
      cases hroute
      exact .inl ⟨rfl, extension?_eq_some_iff.2 ⟨by decide, stem, hstem, rfl⟩⟩
    | cons folder folders =>
      cases hroute
      exact .inr ⟨folders, stem, hstem, rfl⟩
  · rintro (⟨rfl, hname⟩ | ⟨folders, stem, hstem, rfl⟩)
    · obtain ⟨-, stem, hstem, rfl⟩ := extension?_eq_some_iff.1 hname
      exact ⟨[], stem, hstem, rfl⟩
    · exact ⟨name :: folders, stem, hstem, rfl⟩

theorem Before.ne_nil (h : Before route route') : route ≠ [] ∧ route' ≠ [] := by
  cases h <;> exact ⟨List.cons_ne_nil _ _, List.cons_ne_nil _ _⟩

theorem Before.asymm (h : Before route route') : ¬ Before route' route := by
  intro h'
  induction h with
  | files hlt =>
    cases h' with
    | files hlt' => exact String.lt_asymm hlt hlt'
    | fileFirst hne => exact hne rfl
    | folders _ hne => exact hne rfl
    | inside h' => exact h'.ne_nil.1 rfl
  | fileFirst hne =>
    cases h' with
    | files => exact hne rfl
    | fileFirst => exact hne rfl
    | folders _ _ hne' => exact hne' rfl
    | inside h' => exact h'.ne_nil.2 rfl
  | folders hlt hne hne' =>
    cases h' with
    | files => exact hne rfl
    | fileFirst => exact hne' rfl
    | folders hlt' => exact String.lt_asymm hlt hlt'
    | inside => exact String.lt_irrefl _ hlt
  | inside h ih =>
    cases h' with
    | files hlt => exact String.lt_irrefl _ hlt
    | fileFirst => exact h.ne_nil.2 rfl
    | folders hlt => exact String.lt_irrefl _ hlt
    | inside h' => exact ih h'

theorem Before.irrefl (route : List String) : ¬ Before route route := fun h => h.asymm h

theorem pairwise_mergeSort_byName {xs : List (String × α)} (h : (xs.map (·.1)).Nodup) :
    (xs.mergeSort byName).Pairwise fun x y => x.1 < y.1 := by
  have hle : (xs.mergeSort byName).Pairwise fun x y => byName x y := by
    refine List.pairwise_mergeSort (fun a b c hab hbc => ?_) (fun a b => ?_) xs
    · simp only [byName, decide_eq_true_eq] at hab hbc ⊢
      exact String.le_trans hab hbc
    · simpa [byName] using String.le_total a.1 b.1
  have hne : (xs.mergeSort byName).Pairwise fun x y => x.1 ≠ y.1 :=
    List.pairwise_map.1 (((List.mergeSort_perm xs byName).map Prod.fst).nodup_iff.2 h)
  refine (hle.and hne).imp fun ⟨hxy, hne⟩ => ?_
  simp only [byName, decide_eq_true_eq] at hxy
  exact String.not_le.1 fun hyx => hne (String.le_antisymm hxy hyx)

-- ---------------------------------------------------------------------------
-- A folder whose folders can be listed
-- ---------------------------------------------------------------------------

def arranged (files : List (String × Except Fault ByteArray)) (inner : List (String × List Located)) :
    List Located :=
  (files.mergeSort byName).map (fun (name, content) => ([name], content)) ++
    (inner.mergeSort byName).flatMap fun (name, below) =>
      below.map fun (route, content) => (name :: route, content)

def innerListing : Folder → List (String × List Located)
  | .nil | .torn _ => []
  | .cons name (.folder f) rest =>
    (name, arranged (scriptFiles f) (innerListing f)) :: innerListing rest
  | .cons _ _ rest => innerListing rest

def listing (f : Folder) : List Located := arranged (scriptFiles f) (innerListing f)

def scriptsBelow (path : String) (inner : String × List Located) :
    String × Except Error (List Script) :=
  (inner.1, .ok (inner.2.map (scriptAt (join path inner.1))))

theorem map_scriptAt_arranged (files : List (String × Except Fault ByteArray))
    (inner : List (String × List Located)) (path : String) :
    (arranged files inner).map (scriptAt path) =
      (files.mergeSort byName).map (fun (name, content) => ⟨join path name, content⟩) ++
        ((inner.mergeSort byName).map fun x => x.2.map (scriptAt (join path x.1))).flatten := by
  simp only [arranged, List.map_append, List.flatMap_def, List.map_flatten, List.map_map,
    Function.comp_def]
  rfl

theorem inOrder_scriptsBelow {f : Folder} (htear : f.tear? = none)
    (inner : List (String × List Located)) (path : String) :
    inOrder path f (inner.map (scriptsBelow path)) =
      .ok ((arranged (scriptFiles f) inner).map (scriptAt path)) := by
  have hinner : (inner.mergeSort byName).map (scriptsBelow path) =
      (inner.map (scriptsBelow path)).mergeSort byName :=
    List.map_mergeSort fun _ _ _ _ => rfl
  have hbelow : ((inner.mergeSort byName).map (scriptsBelow path)).mapM (·.2) =
      .ok ((inner.mergeSort byName).map fun x => x.2.map (scriptAt (join path x.1))) := by
    rw [List.mapM_map]
    exact List.mapM_pure
  rw [inOrder, htear, ← hinner, hbelow, map_scriptAt_arranged]
  rfl

theorem innerScripts_eq (path : String) : (f : Folder) → f.Proper →
    innerScripts path f = (innerListing f).map (scriptsBelow path)
  | .nil, _ => rfl
  | .cons name (.folder f) rest, ⟨_, _, hf, hrest⟩ => by
    rw [innerScripts, innerListing, List.map_cons, innerScripts_eq (join path name) f hf,
      inOrder_scriptsBelow (Folder.Proper.tear?_eq_none hf), innerScripts_eq path rest hrest]
    rfl
  | .cons _ (.file _) rest, ⟨_, _, _, hrest⟩
  | .cons _ (.closedFile _) rest, ⟨_, _, _, hrest⟩ => innerScripts_eq path rest hrest

theorem scripts_eq {f : Folder} (hf : f.Proper) (path : String) :
    scripts path f = .ok ((listing f).map (scriptAt path)) := by
  rw [scripts, innerScripts_eq path f hf, inOrder_scriptsBelow hf.tear?_eq_none]
  rfl

-- ---------------------------------------------------------------------------
-- Which scripts are listed
-- ---------------------------------------------------------------------------

theorem scriptFile?_eq_some_iff {entry : Entry} : scriptFile? name entry = some file ↔
    extension? name = some scriptExtension ∧ file.1 = name ∧ entry.content? = some file.2 := by
  obtain ⟨name', content⟩ := file
  simp only [scriptFile?, Option.ite_none_right_eq_some, Option.map_eq_some_iff, Prod.mk.injEq]
  constructor
  · rintro ⟨hname, content, hcontent, rfl, rfl⟩
    exact ⟨hname, rfl, hcontent⟩
  · rintro ⟨hname, rfl, hcontent⟩
    exact ⟨hname, content, hcontent, rfl, rfl⟩

theorem mem_scriptFiles {f : Folder} : (name, content) ∈ scriptFiles f ↔
    ∃ entry, (name, entry) ∈ f.entries ∧ entry.content? = some content ∧
      extension? name = some scriptExtension := by
  simp only [scriptFiles, List.mem_filterMap, Prod.exists, scriptFile?_eq_some_iff]
  constructor
  · rintro ⟨name', entry, hmem, hname, rfl, hcontent⟩
    exact ⟨entry, hmem, hcontent, hname⟩
  · rintro ⟨entry, hmem, hcontent, hname⟩
    exact ⟨name, entry, hmem, hname, rfl, hcontent⟩

theorem mem_innerListing : (f : Folder) → ((name, below) ∈ innerListing f ↔
    ∃ g, (name, Entry.folder g) ∈ f.entries ∧ listing g = below)
  | .nil | .torn _ => by simp [innerListing, Folder.entries]
  | .cons first (.folder f) rest => by
    rw [innerListing, List.mem_cons, mem_innerListing rest]
    constructor
    · rintro (hfirst | ⟨g, hmem, hbelow⟩)
      · cases hfirst
        exact ⟨f, List.mem_cons_self, rfl⟩
      · exact ⟨g, List.mem_cons_of_mem _ hmem, hbelow⟩
    · rintro ⟨g, hmem, rfl⟩
      rcases List.mem_cons.1 hmem with hfirst | hlater
      · cases hfirst
        exact .inl rfl
      · exact .inr ⟨g, hlater, rfl⟩
  | .cons _ (.file _) rest
  | .cons _ (.closedFile _) rest
  | .cons _ (.closedFolder _) rest => by simp [innerListing, mem_innerListing rest]

section
variable {files : List (String × Except Fault ByteArray)} {inner : List (String × List Located)}

theorem mem_arranged : (name :: route, content) ∈ arranged files inner ↔
    (route = [] ∧ (name, content) ∈ files) ∨
      ∃ below, (name, below) ∈ inner ∧ (route, content) ∈ below := by
  simp [arranged, and_comm]

theorem nil_not_mem_arranged : ([], content) ∉ arranged files inner := by
  simp [arranged]

theorem mem_listing {f : Folder} :
    (route, content) ∈ listing f ↔ f.Holds route content ∧ IsScript route := by
  induction route generalizing f with
  | nil => simp [nil_not_mem_arranged, listing, Folder.not_holds_nil]
  | cons name route ih =>
    rw [listing, mem_arranged, Folder.holds_cons_iff, isScript_cons_iff]
    -- No file is reached without a name, so each of the two ways is left with one kind of entry.
    cases route with
    | nil =>
      simp [mem_scriptFiles, mem_innerListing, ih, Folder.not_holds_nil, not_isScript_nil,
        ← and_assoc]
    | cons next route => simp [mem_innerListing, ih, ← and_assoc]

-- ---------------------------------------------------------------------------
-- In which order
-- ---------------------------------------------------------------------------

theorem pairwise_arranged (hfiles : (files.map (·.1)).Nodup) (hinner : (inner.map (·.1)).Nodup)
    (hbelow : ∀ x ∈ inner, x.2.Pairwise (Before ·.1 ·.1) ∧ ∀ s ∈ x.2, s.1 ≠ []) :
    (arranged files inner).Pairwise (Before ·.1 ·.1) := by
  rw [arranged, List.pairwise_append]
  refine ⟨?_, ?_, ?_⟩
  · exact List.pairwise_map.2 ((pairwise_mergeSort_byName hfiles).imp fun hlt => .files hlt)
  · -- What is in one folder, and what is in two.
    rw [List.pairwise_flatMap]
    constructor
    · intro x hx
      exact List.pairwise_map.2 ((hbelow x (List.mem_mergeSort.1 hx)).1.imp fun h => .inside h)
    · refine (pairwise_mergeSort_byName hinner).imp_of_mem ?_
      intro x y hx hy hlt r hr r' hr'
      obtain ⟨s, hs, rfl⟩ := List.mem_map.1 hr
      obtain ⟨s', hs', rfl⟩ := List.mem_map.1 hr'
      have hne := (hbelow x (List.mem_mergeSort.1 hx)).2 s hs
      have hne' := (hbelow y (List.mem_mergeSort.1 hy)).2 s' hs'
      exact .folders hlt hne hne'
  · -- A file, and what is in a folder.
    intro r hr r' hr'
    obtain ⟨file, -, rfl⟩ := List.mem_map.1 hr
    obtain ⟨x, hx, hr'⟩ := List.mem_flatMap.1 hr'
    obtain ⟨s, hs, rfl⟩ := List.mem_map.1 hr'
    exact .fileFirst ((hbelow x (List.mem_mergeSort.1 hx)).2 s hs)

end

theorem scriptFiles_names_sublist (f : Folder) :
    ((scriptFiles f).map (·.1)).Sublist f.names := by
  rw [scriptFiles, Folder.names]
  induction f.entries with
  | nil => exact .slnil
  | cons entry entries ih =>
    obtain ⟨name, entry⟩ := entry
    cases hfile : scriptFile? name entry with
    | none => simpa [hfile] using ih.cons name
    | some file =>
      obtain ⟨-, rfl, -⟩ := scriptFile?_eq_some_iff.1 hfile
      simpa [hfile] using ih

theorem innerListing_names_sublist : (f : Folder) →
    ((innerListing f).map (·.1)).Sublist f.names
  | .nil | .torn _ => .slnil
  | .cons name (.folder _) rest => (innerListing_names_sublist rest).cons_cons name
  | .cons name (.file _) rest
  | .cons name (.closedFile _) rest
  | .cons name (.closedFolder _) rest => (innerListing_names_sublist rest).cons name

theorem pairwise_listing {f : Folder} (hf : f.Proper) : (listing f).Pairwise (Before ·.1 ·.1) := by
  induction f using Folder.induction with
  | step f ih =>
    refine pairwise_arranged (hf.nodup_names.sublist (scriptFiles_names_sublist f))
      (hf.nodup_names.sublist (innerListing_names_sublist f)) ?_
    rintro ⟨name, below⟩ hbelow
    obtain ⟨g, hmem, rfl⟩ := (mem_innerListing f).1 hbelow
    refine ⟨ih name g hmem (hf.of_mem hmem).2, ?_⟩
    rintro ⟨route, content⟩ hmem rfl
    exact nil_not_mem_arranged hmem

theorem nodup_of_before {found : List Located} (h : found.Pairwise (Before ·.1 ·.1)) :
    found.Nodup :=
  h.imp fun {s s'} hbefore (heq : s = s') => Before.irrefl s.1 (heq ▸ hbefore)

theorem eq_listing {f : Folder} {found : List Located} (hf : f.Proper)
    (hmem : ∀ route content, (route, content) ∈ found ↔ f.Holds route content ∧ IsScript route)
    (hbefore : found.Pairwise (Before ·.1 ·.1)) : found = listing f := by
  have hlisting := pairwise_listing hf
  refine List.Perm.eq_of_pairwise (fun _ _ _ _ hlt hlt' => absurd hlt' hlt.asymm) hbefore hlisting
    ((List.perm_ext_iff_of_nodup (nodup_of_before hbefore) (nodup_of_before hlisting)).2 ?_)
  rintro ⟨route, content⟩
  rw [hmem, mem_listing]

theorem listing_eq_of_relisted {f g : Folder} (hf : f.Proper) (h : f.Relisted g) :
    listing g = listing f :=
  eq_listing hf (fun _ _ => by rw [mem_listing, h.holds_iff]) (pairwise_listing (h.proper hf))

theorem pairwise_path_ne {f : Folder} (hf : f.Proper) (path : String) :
    ((listing f).map (scriptAt path)).Pairwise (·.path ≠ ·.path) := by
  rw [List.pairwise_map]
  refine (pairwise_listing hf).imp_of_mem ?_
  rintro ⟨route, content⟩ ⟨route', content'⟩ hmem hmem' hbefore hpath
  obtain ⟨hne, hnames⟩ := hf.of_holds (mem_listing.1 hmem).1
  obtain ⟨hne', hnames'⟩ := hf.of_holds (mem_listing.1 hmem').1
  obtain rfl : route = route' := foldl_join_inj hne hne' hnames hnames' hpath
  exact Before.irrefl _ hbefore

/-- However folders list what is in them, the same scripts come in the same order: each file with the
extension of a script once, by the names that lead to it. -/
theorem scripts_come_by_name {f : Folder} (hf : f.Proper) (path : String) :
    ∃ found : List Located,
      (∀ route content, (route, content) ∈ found ↔ f.Holds route content ∧ IsScript route) ∧
      found.Pairwise (Before ·.1 ·.1) ∧
      (found.map (scriptAt path)).Pairwise (·.path ≠ ·.path) ∧
      ∀ g, f.Relisted g → collect path (.ok g) = .ok (found.map (scriptAt path)) := by
  refine ⟨listing f, fun _ _ => mem_listing, pairwise_listing hf, pairwise_path_ne hf path, ?_⟩
  intro g hg
  rw [collect, scripts_eq (hg.proper hf), listing_eq_of_relisted hf hg]

def scriptAndFolder (bytes : ByteArray) : Folder :=
  .cons "a.cypher" (.folder (.cons "z.cypher" (.file bytes) .nil))
    (.cons "b.cypher" (.file bytes) .nil)

theorem proper_scriptAndFolder (bytes : ByteArray) : (scriptAndFolder bytes).Proper := by
  simp [scriptAndFolder, Folder.Proper, Entry.Proper, IsName, Folder.names, Folder.entries]

theorem listing_scriptAndFolder (bytes : ByteArray) : listing (scriptAndFolder bytes) =
    [(["b.cypher"], .ok bytes), (["a.cypher", "z.cypher"], .ok bytes)] := by
  have hextension : extension? "b.cypher" = some scriptExtension ∧
      extension? "z.cypher" = some scriptExtension := by
    decide
  simp [listing, innerListing, arranged, scriptFiles, scriptAndFolder, Folder.entries, scriptFile?,
    hextension, Entry.content?]

theorem scriptAndFolder_come_by_name :
    (scriptAndFolder .empty).Proper ∧ ∃ found : List Located,
      found = [(["b.cypher"], .ok .empty), (["a.cypher", "z.cypher"], .ok .empty)] ∧
      (∀ route content, (route, content) ∈ found ↔
        (scriptAndFolder .empty).Holds route content ∧ IsScript route) ∧
      found.Pairwise (Before ·.1 ·.1) ∧
      (found.map (scriptAt "d")).Pairwise (·.path ≠ ·.path) ∧
      ∀ g, (scriptAndFolder .empty).Relisted g →
        collect "d" (.ok g) = .ok (found.map (scriptAt "d")) := by
  have hf : (scriptAndFolder .empty).Proper := proper_scriptAndFolder .empty
  obtain ⟨found, hmem, hbefore, hpath, hcollect⟩ := scripts_come_by_name hf "d"
  have hfound := (eq_listing hf hmem hbefore).trans (listing_scriptAndFolder .empty)
  exact ⟨hf, found, hfound, hmem, hbefore, hpath, hcollect⟩

end KnowledgeGraph.Schema
