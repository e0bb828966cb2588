import KnowledgeGraph.Proofs.Calendar
import KnowledgeGraph.Proofs.Node.Creation

/-!
# Pictures of nodes

The pictures that a run of creations stores, and what is left of them at its end. The place of a
picture is told by the name of the node and the second in which it is stored, so a picture gives
way to a later one of the same name and second, and to no other.
-/

namespace KnowledgeGraph

/-- Backends whose object store has under each place what was last put there. -/
structure KeepsObjects (answer : (c : Call) → σ → c.Answer × σ)
    (object? : σ → String → String → Option Asset.Object) : Prop where
  stored (bucket key : String) (o : Asset.Object) (s : σ) :
    (answer (.put bucket key o) s).1 = .ok () → ∀ bucket' key',
      object? (answer (.put bucket key o) s).2 bucket' key' =
        if bucket = bucket' ∧ key = key' then some o else object? s bucket' key'
  failed (bucket key : String) (o : Asset.Object) (s : σ) (failure : Failure) :
    (answer (.put bucket key o) s).1 = .error failure →
      object? (answer (.put bucket key o) s).2 = object? s
  other (c : Call) (s : σ) : (∀ bucket key o, c ≠ .put bucket key o) →
    object? (answer c s).2 = object? s

def Turn.kept (bucket key : String) (o? : Option Asset.Object) : Turn → Option Asset.Object
  | ⟨.put bucket' key' o, .ok _⟩ => if bucket' = bucket ∧ key' = key then some o else o?
  | _ => o?

def Turn.stored? : Turn → Option Asset.Object
  | ⟨.put _ _ o, .ok _⟩ => some o
  | _ => none

section
variable {answer : (c : Call) → σ → c.Answer × σ}
  {object? : σ → String → String → Option Asset.Object}

theorem KeepsObjects.kept_turn (h : KeepsObjects answer object?) (c : Call) (s : σ)
    (bucket key : String) : object? (answer c s).2 bucket key =
      Turn.kept bucket key (object? s bucket key) ⟨c, (answer c s).1⟩ := by
  cases c with
  | put bucket' key' o =>
    cases hput : (answer (.put bucket' key' o) s).1 with
    | ok _ => exact h.stored bucket' key' o s hput bucket key
    | error failure => rw [h.failed bucket' key' o s failure hput]; rfl
  | _ =>
    rw [h.other _ s (by rintro _ _ _ ⟨⟩)]
    rfl

theorem KeepsObjects.kept_run (h : KeepsObjects answer object?) (w : Workflow α) (s : σ)
    (bucket key : String) : object? (w.run answer s).2 bucket key =
      (w.turns answer s).foldl (Turn.kept bucket key) (object? s bucket key) := by
  induction w generalizing s with
  | done r => rfl
  | ask c next ih =>
    rw [Workflow.turns, List.foldl_cons, ← h.kept_turn]
    exact ih _ _

end

namespace Node

open KnowledgeGraph.Graph (Record Settings Statement)
open Json (Members)

-- ---------------------------------------------------------------------------
-- The place of a picture
-- ---------------------------------------------------------------------------

theorem keyOf_inj {name name' time time' : String} (htime : '_' ∉ time.toList)
    (htime' : '_' ∉ time'.toList) (h : name ++ "_" ++ time ++ ".png" =
      name' ++ "_" ++ time' ++ ".png") : name = name' ∧ time = time' := by
  have hreverse (name time : String) : (name ++ "_" ++ time).toList.reverse =
      time.toList.reverse ++ '_' :: name.toList.reverse := by
    simp [String.toList_append]
  have h := congrArg (fun key => key.toList.reverse) ((String.append_left_inj ".png").mp h)
  simp only [hreverse] at h
  obtain ⟨htimes, hnames⟩ := Text.append_cons_inj h
    (fun hmem => htime (List.mem_reverse.mp hmem)) (fun hmem => htime' (List.mem_reverse.mp hmem))
  exact ⟨String.toList_inj.mp (List.reverse_injective hnames),
    String.toList_inj.mp (List.reverse_injective htimes)⟩

/-- The key of a picture tells its name, whatever characters that has, and its second. -/
theorem imageKey_inj : imageKey name seconds = imageKey name' seconds' ↔
    name = name' ∧ seconds = seconds' := by
  constructor
  · intro h
    have hline (seconds : Nat) : '_' ∉ (Calendar.timestamp seconds).toList :=
      Calendar.notMem_timestamp rfl (by decide)
    obtain ⟨hname, htime⟩ := keyOf_inj (hline seconds) (hline seconds') h
    exact ⟨hname, Calendar.timestamp_inj htime⟩
  · rintro ⟨rfl, rfl⟩
    rfl

structure Picture where
  name : String
  seconds : Nat
  bytes : ByteArray

namespace Picture

def key (p : Picture) : String := imageKey p.name p.seconds

def object (p : Picture) : Asset.Object := ⟨p.bytes, Asset.sniff p.bytes⟩

/-- Whether the pictures have the same name and were stored in the same second. -/
def Meets (p q : Picture) : Prop := q.name = p.name ∧ q.seconds = p.seconds

instance (p q : Picture) : Decidable (p.Meets q) := inferInstanceAs (Decidable (_ ∧ _))

/-- The last of the later pictures that meet a picture, or itself. -/
def latest (p : Picture) (later : List Picture) : Picture :=
  ((later.filter (p.Meets ·)).getLast?).getD p

theorem meets_iff {p q : Picture} : p.Meets q ↔ q.key = p.key := imageKey_inj.symm

def keptAt (key : String) (o? : Option Asset.Object) (p : Picture) : Option Asset.Object :=
  if p.key = key then some p.object else o?

theorem foldl_keptAt (p : Picture) (later : List Picture) :
    later.foldl (keptAt p.key) (some p.object) = some (p.latest later).object := by
  induction later using List.reverseRecOn with
  | nil => rfl
  | append_singleton init q ih =>
    rw [List.foldl_append, ih]
    by_cases hq : p.Meets q
    · simp [keptAt, latest, meets_iff.mp hq, hq]
    · have hkey : ¬ q.key = p.key := fun h => hq (meets_iff.mpr h)
      simp [keptAt, latest, hkey, hq]

theorem latest_of_forall_not (h : ∀ q ∈ later, ¬ Meets p q) : p.latest later = p := by
  have hnone : later.filter (p.Meets ·) = [] := by simpa using h
  rw [latest, hnone]
  rfl

end Picture

-- ---------------------------------------------------------------------------
-- One creation
-- ---------------------------------------------------------------------------

structure Attempt where
  creation : Creation
  log : List Turn
  result : Except Error (List Record)

def Attempt.picture? (a : Attempt) : Option Picture := do
  let name ← a.creation.name?
  let o ← a.log.findSome? Turn.stored?
  return ⟨name, (Told.ofLog a.log).seconds, o.bytes⟩

/-- The picture was drawn for the node, and the node says where it is. -/
structure Attempt.Shows (a : Attempt) (p : Picture) : Prop where
  drawn : ⟨.draw (imagePrompt (a.creation.subject p.name)), .ok p.bytes⟩ ∈ a.log
  placed : ∃ st ms answer, ⟨.query st, answer⟩ ∈ a.log ∧ IsCreate st ∧
    st.params = [("properties", .obj ms)] ∧ Members.get? "image" ms = some (.str p.key)

theorem picture?_of_names (h : c.Names name) : (Attempt.mk c log r).picture? =
    (log.findSome? Turn.stored?).bind fun o =>
      some ⟨name, (Told.ofLog log).seconds, o.bytes⟩ := by
  rw [Attempt.picture?, name?_eq_some_iff.mpr ⟨h.named, h.given⟩]
  rfl

section
variable {settings : Settings} {bucket : String} {c : Creation}

theorem kept_log (h : c.Run settings (some bucket) log r) (key : String)
    (o? : Option Asset.Object) : log.foldl (Turn.kept bucket key) o? =
      ((Attempt.mk c log r).picture?.toList).foldl (Picture.keptAt key) o? := by
  cases h with
  | refused _ =>
    unfold Attempt.picture?
    cases c.name? <;> rfl
  | notEmbedded _ hnames => rw [picture?_of_names hnames]; rfl
  | notCompared _ hnames => rw [picture?_of_names hnames]; rfl
  | similar hnames _ => rw [picture?_of_names hnames]; rfl
  | notPictured _ hnames _ hpicture =>
    rw [picture?_of_names hnames]
    cases hpicture <;> rfl
  | @sent name rows log key? embedding log' r hnames _ hpicture hsent =>
    rw [picture?_of_names hnames]
    cases hpicture with
    | @stored _ bytes seconds =>
      have hstored : Turn.kept bucket key o? ⟨.put bucket (imageKey name seconds)
          ⟨bytes, Asset.sniff bytes⟩, .ok ()⟩ = Picture.keptAt key o? ⟨name, seconds, bytes⟩ := by
        by_cases hkey : imageKey name seconds = key
        · simp [Turn.kept, Picture.keptAt, Picture.key, Picture.object, hkey]
        · simp [Turn.kept, Picture.keptAt, Picture.key, hkey]
      cases hsent <;> exact hstored

theorem shows_of_run (h : c.Run settings (some bucket) log (.ok records)) :
    ∃ p, (Attempt.mk c log (.ok records)).picture? = some p ∧
      (Attempt.mk c log (.ok records)).Shows p := by
  cases h with
  | @sent name rows log key? embedding log' r hnames _ hpicture hsent =>
    cases hsent with
    | @created st _ hst =>
      cases hpicture with
      | @stored _ bytes seconds =>
        refine ⟨⟨name, seconds, bytes⟩, picture?_of_names hnames, ⟨?_, ?_⟩⟩
        · simp
        · have hcreates : c.Creates (some bucket) name ⟨embedding, bytes, seconds⟩ st :=
            creates_of_create rfl hst
          obtain ⟨ms, hparams, hget, -⟩ := hcreates.properties
          refine ⟨st, ms, .ok records, by simp, hcreates.isCreate, hparams, ?_⟩
          rw [hget]
          rfl

end

-- ---------------------------------------------------------------------------
-- Runs of creations
-- ---------------------------------------------------------------------------

section
variable (answer : (c : Call) → σ → c.Answer × σ) (settings : Settings) (bucket : String)

def attempts : List Creation → σ → List Attempt
  | [], _ => []
  | c :: cs, s =>
    let w := add settings (some bucket) c
    ⟨c, w.turns answer s, (w.run answer s).1⟩ :: attempts cs (w.run answer s).2

def afterAttempts : List Creation → σ → σ
  | [], s => s
  | c :: cs, s => afterAttempts cs ((add settings (some bucket) c).run answer s).2

variable {answer settings bucket} {object? : σ → String → String → Option Asset.Object}

theorem run_of_mem_attempts (h : a ∈ attempts answer settings bucket cs s) :
    a.creation.Run settings (some bucket) a.log a.result := by
  induction cs generalizing s with
  | nil => cases h
  | cons c cs ih =>
    rcases List.mem_cons.mp h with rfl | h
    · exact run_of_trace (Workflow.trace_run answer _ s)
    · exact ih h

/-- What a run of creations does to the objects is to store their pictures in turn. -/
theorem kept_attempts (h : KeepsObjects answer object?) (cs : List Creation) (s : σ)
    (key : String) : object? (afterAttempts answer settings bucket cs s) bucket key =
      ((attempts answer settings bucket cs s).filterMap Attempt.picture?).foldl
        (Picture.keptAt key) (object? s bucket key) := by
  induction cs generalizing s with
  | nil => rfl
  | cons c cs ih =>
    have hrun := run_of_trace (Workflow.trace_run answer (add settings (some bucket) c) s)
    rw [afterAttempts, ih, h.kept_run, kept_log hrun, attempts, List.filterMap_cons]
    cases (Attempt.mk c _ _).picture? <;> rfl

/-- At the end of a run of creations the picture of every node that was made is under the key that
the node says, or in its place the last of the later pictures of the same name and second. -/
theorem pictures_give_way_to_their_like (h : KeepsObjects answer object?)
    (hattempts : attempts answer settings bucket cs s = before ++ a :: later)
    (hmade : a.result = .ok records) :
    ∃ p, a.picture? = some p ∧ a.Shows p ∧
      object? (afterAttempts answer settings bucket cs s) bucket p.key =
        some (p.latest (later.filterMap Attempt.picture?)).object ∧
      ((∀ q ∈ later.filterMap Attempt.picture?, ¬ p.Meets q) →
        object? (afterAttempts answer settings bucket cs s) bucket p.key = some p.object) := by
  obtain ⟨c, log, r⟩ := a
  subst hmade
  have hrun : c.Run settings (some bucket) log (.ok records) :=
    run_of_mem_attempts (hattempts ▸ List.mem_append_right before List.mem_cons_self)
  obtain ⟨p, hp, hshows⟩ := shows_of_run hrun
  have hkept : object? (afterAttempts answer settings bucket cs s) bucket p.key =
      some (p.latest (later.filterMap Attempt.picture?)).object := by
    rw [kept_attempts h, hattempts, List.filterMap_append, List.foldl_append,
      List.filterMap_cons_some hp, List.foldl_cons, ← p.foldl_keptAt, Picture.keptAt, if_pos rfl]
  refine ⟨p, hp, hshows, hkept, fun hnone => ?_⟩
  rw [hkept, Picture.latest_of_forall_not hnone]

end

structure Gallery where
  drawn : Nat
  objects : Asset.Store

def gallery : (c : Call) → Gallery → c.Answer × Gallery
  | .draw _, g => (.ok ⟨#[g.drawn.toUInt8]⟩, { g with drawn := g.drawn + 1 })
  | .put bucket key o, g => (.ok (), { g with objects := g.objects.put bucket key o })
  | .get bucket key, g => (.ok (g.objects.get? bucket key), g)
  | .query _, g => (.ok [], g)
  | .command _, g => (.ok (), g)
  | .embed _, g => (.ok [], g)
  | .now, g => (0, g)
  | .entropy _, g => (.empty, g)
  | .count _, g => ((), g)
  | .counters, g => (default, g)
  | .note _ _, g => ((), g)

theorem keepsObjects_gallery : KeepsObjects gallery fun g => g.objects.get? where
  stored bucket key o g _ bucket' key' := Asset.Store.get?_put g.objects bucket key bucket' key' o
  failed bucket key o g failure h := nomatch h
  other c g h := by
    cases c with
    | put bucket key o => exact absurd rfl (h bucket key o)
    | _ => rfl

def firstRust : Picture := ⟨"Rust", 0, ⟨#[0]⟩⟩

theorem firstRust_is_replaced :
    KeepsObjects gallery (fun g => g.objects.get?) ∧
    ∃ first second, attempts gallery {} "pictures" [rust, rust] ⟨0, .empty⟩ = [first, second] ∧
      first.result = .ok [] ∧ second.result = .ok [] ∧
      first.picture? = some firstRust ∧ first.Shows firstRust ∧
      (afterAttempts gallery {} "pictures" [rust, rust] ⟨0, .empty⟩).objects.get? "pictures"
        firstRust.key = some ⟨⟨#[1]⟩, Asset.sniff ⟨#[1]⟩⟩ ∧
      (⟨#[1]⟩ : ByteArray) ≠ firstRust.bytes := by
  refine ⟨keepsObjects_gallery, _, _, rfl, rfl, rfl, rfl, ?_, ?_, by decide⟩
  · have hmem : _ ∈ attempts gallery {} "pictures" [rust, rust] ⟨0, .empty⟩ := List.mem_cons_self
    obtain ⟨p, hp, hshows⟩ := shows_of_run (run_of_mem_attempts hmem)
    obtain rfl : firstRust = p := Option.some.inj hp
    exact hshows
  · exact kept_attempts keepsObjects_gallery [rust, rust] ⟨0, .empty⟩ firstRust.key

/-- A node whose name reads like the key of another's picture. -/
def lookalike : Creation :=
  { rust with properties := [("name", .str "Rust_1970-01-01 00:00:00.png")] }

theorem firstRust_is_kept :
    KeepsObjects gallery (fun g => g.objects.get?) ∧
    ∃ first second, attempts gallery {} "pictures" [rust, lookalike] ⟨0, .empty⟩ =
        [] ++ first :: [second] ∧
      first.result = .ok [] ∧ first.picture? = some firstRust ∧
      (afterAttempts gallery {} "pictures" [rust, lookalike] ⟨0, .empty⟩).objects.get? "pictures"
        firstRust.key = some firstRust.object := by
  have hrun : attempts gallery {} "pictures" [rust, lookalike] ⟨0, .empty⟩ = [] ++ _ :: [_] := rfl
  obtain ⟨p, hp, -, -, hkept⟩ :=
    pictures_give_way_to_their_like keepsObjects_gallery hrun rfl
  obtain rfl : firstRust = p := Option.some.inj hp
  refine ⟨keepsObjects_gallery, _, _, rfl, rfl, rfl, hkept ?_⟩
  intro q hq hmeets
  obtain rfl : q = ⟨"Rust_1970-01-01 00:00:00.png", 0, ⟨#[1]⟩⟩ := List.mem_singleton.mp hq
  exact absurd hmeets.1 (by decide)

end Node

end KnowledgeGraph
