import KnowledgeGraph.Asset.Keeping
import KnowledgeGraph.Proofs.Text.Split

/-!
# Objects kept in memory

What a client finds at a place after any accesses to a store in memory. Two clients mean the same
place if what they say differs in nothing but the blanks around it.
-/

namespace KnowledgeGraph.Asset

-- ---------------------------------------------------------------------------
-- The place that is meant
-- ---------------------------------------------------------------------------

/-- What is given is a text with blanks around it, and not blanks alone. -/
def Says (given? : Option String) (text : String) : Prop :=
  ∃ given, given? = some given ∧ text = Text.trim given ∧ text ≠ ""

/-- A bucket and a key are those that a client says. Who says no bucket means the configured one. -/
structure Means (defaultBucket bucket key : Option String) (place : String × String) : Prop where
  key : Says key place.2
  bucket : Says bucket place.1 ∨ (∀ text, ¬ Says bucket text) ∧ defaultBucket = some place.1

theorem bind_trimmed?_eq_some_iff : given?.bind Text.trimmed? = some text ↔ Says given? text := by
  simp only [Says, Option.bind_eq_some_iff, Text.trimmed?_eq_some_iff]

theorem bind_trimmed?_eq_none_iff :
    given?.bind Text.trimmed? = none ↔ ∀ text, ¬ Says given? text := by
  simp only [Option.eq_none_iff_forall_ne_some, ne_eq, bind_trimmed?_eq_some_iff]

section
variable {defaultBucket bucket key : Option String}

theorem bucket_eq_some_iff :
    ((bucket.bind Text.trimmed?).orElse fun _ => defaultBucket) = some inBucket ↔
      Says bucket inBucket ∨ (∀ text, ¬ Says bucket text) ∧ defaultBucket = some inBucket := by
  rw [← bind_trimmed?_eq_some_iff, ← bind_trimmed?_eq_none_iff]
  cases bucket.bind Text.trimmed? <;> simp

theorem resolve_eq_ok_iff :
    resolve defaultBucket bucket key = .ok place ↔ Means defaultBucket bucket key place := by
  have hmeans : Means defaultBucket bucket key place ↔ key.bind Text.trimmed? = some place.2 ∧
      ((bucket.bind Text.trimmed?).orElse fun _ => defaultBucket) = some place.1 := by
    rw [bind_trimmed?_eq_some_iff, bucket_eq_some_iff]
    exact ⟨fun ⟨hkey, hbucket⟩ => ⟨hkey, hbucket⟩, fun ⟨hkey, hbucket⟩ => ⟨hkey, hbucket⟩⟩
  rw [hmeans, resolve]
  cases key.bind Text.trimmed? with
  | none => simp
  | some underKey =>
    cases (bucket.bind Text.trimmed?).orElse fun _ => defaultBucket with
    | none => simp
    | some inBucket => simp [Prod.ext_iff, and_comm]

theorem exists_resolve_eq_error (h : ∀ place, ¬ Means defaultBucket bucket key place) :
    ∃ message, resolve defaultBucket bucket key = .error (.invalidInput message) := by
  cases hresolve : resolve defaultBucket bucket key with
  | ok place => exact absurd (resolve_eq_ok_iff.mp hresolve) (h place)
  | error e =>
    unfold resolve at hresolve
    split at hresolve
    · cases hresolve
      exact ⟨_, rfl⟩
    · split at hresolve
      · cases hresolve
        exact ⟨_, rfl⟩
      · cases hresolve

end

-- ---------------------------------------------------------------------------
-- Accesses
-- ---------------------------------------------------------------------------

structure KeepsInMemory (answer : (c : Call) → σ → c.Answer × σ) (objects : σ → Store) : Prop where
  put (bucket key : String) (o : Object) (s : σ) :
    (answer (.put bucket key o) s).1 = .ok () ∧
      objects (answer (.put bucket key o) s).2 = (objects s).put bucket key o
  get (bucket key : String) (s : σ) :
    (answer (.get bucket key) s).1 = .ok ((objects s).get? bucket key)
  other (c : Call) (s : σ) : (∀ bucket key o, c ≠ .put bucket key o) →
    objects (answer c s).2 = objects s

inductive Access where
  | keep (bucket key : Option String) (bytes : ByteArray) (declared : Option String)
  | fetch (bucket key : Option String)

def found (place : String × String) : Option Object → Except Error Object
  | some o => .ok o
  | none => .error (.notFound ("object '" ++ place.2 ++ "' in bucket '" ++ place.1 ++ "'"))

/-- An access puts an object at a place. -/
inductive Access.Puts (defaultBucket : Option String) (place : String × String) :
    Access → Object → Prop where
  | keep (declared : Option String) : Means defaultBucket bucket key place →
      Puts defaultBucket place (.keep bucket key bytes declared) ⟨bytes, typeOf bytes declared⟩

/-- What a history leaves at a place is what it put there last, if it ever did. -/
inductive Leaves (defaultBucket : Option String) (place : String × String) :
    List Access → Option Object → Prop where
  | last (earlier : List Access) : a.Puts defaultBucket place o →
      (∀ a' ∈ later, ∀ o', ¬ a'.Puts defaultBucket place o') →
      Leaves defaultBucket place (earlier ++ a :: later) (some o)
  | never : (∀ a ∈ history, ∀ o, ¬ a.Puts defaultBucket place o) →
      Leaves defaultBucket place history none

section
variable (answer : (c : Call) → σ → c.Answer × σ) (defaultBucket : Option String)

def Access.after : Access → σ → σ
  | .keep bucket key bytes declared, s =>
    ((Asset.keep defaultBucket bucket key bytes declared).run answer s).2
  | .fetch bucket key, s => ((Asset.fetch defaultBucket bucket key).run answer s).2

def after (history : List Access) (s : σ) : σ :=
  history.foldl (fun s a => a.after answer defaultBucket s) s

end

section
variable {answer : (c : Call) → σ → c.Answer × σ} {objects : σ → Store}
  {defaultBucket bucket key : Option String}

theorem fetch_of_means (hmeans : Means defaultBucket bucket key place) :
    fetch defaultBucket bucket key = Workflow.get place.1 place.2 := by
  show (Workflow.ofExcept (resolve defaultBucket bucket key)).bind _ = _
  rw [resolve_eq_ok_iff.mpr hmeans]
  rfl

theorem keep_of_means (hmeans : Means defaultBucket bucket key place) :
    keep defaultBucket bucket key bytes declared =
      Workflow.put place.1 place.2 ⟨bytes, typeOf bytes declared⟩ := by
  show (Workflow.ofExcept (resolve defaultBucket bucket key)).bind _ = _
  rw [resolve_eq_ok_iff.mpr hmeans]
  rfl

/-- Who means no place is told so, and nothing is asked of the backends. -/
theorem exists_refused (h : ∀ place, ¬ Means defaultBucket bucket key place) :
    ∃ message, fetch defaultBucket bucket key = Workflow.refuse (.invalidInput message) ∧
      ∀ bytes declared, keep defaultBucket bucket key bytes declared =
        Workflow.refuse (.invalidInput message) := by
  obtain ⟨message, hresolve⟩ := exists_resolve_eq_error h
  refine ⟨message, ?_, fun bytes declared => ?_⟩
  · show (Workflow.ofExcept (resolve defaultBucket bucket key)).bind _ = _
    rw [hresolve]
    rfl
  · show (Workflow.ofExcept (resolve defaultBucket bucket key)).bind _ = _
    rw [hresolve]
    rfl

theorem KeepsInMemory.objects_of_answer (hm : KeepsInMemory answer objects)
    (h : answer c s = (a, s')) (hc : ∀ bucket key o, c ≠ .put bucket key o) :
    objects s' = objects s := by
  rw [← hm.other c s hc, h]

theorem run_fetch (hm : KeepsInMemory answer objects)
    (hmeans : Means defaultBucket bucket key place) (s : σ) :
    ((fetch defaultBucket bucket key).run answer s).1 =
        found place ((objects s).get? place.1 place.2) ∧
      objects ((fetch defaultBucket bucket key).run answer s).2 = objects s := by
  have hrun : (Workflow.get place.1 place.2).run answer s =
      (found place ((objects s).get? place.1 place.2), (answer (.get place.1 place.2) s).2) := by
    show (Workflow.orFail _ (answer (.get place.1 place.2) s).1).run answer _ = _
    rw [hm.get]
    cases (objects s).get? place.1 place.2 <;> rfl
  rw [fetch_of_means hmeans, hrun]
  exact ⟨rfl, hm.other _ s nofun⟩

theorem run_keep (hm : KeepsInMemory answer objects)
    (hmeans : Means defaultBucket bucket key place) (bytes : ByteArray)
    (declared : Option String) (s : σ) :
    ((keep defaultBucket bucket key bytes declared).run answer s).1 = .ok () ∧
      objects ((keep defaultBucket bucket key bytes declared).run answer s).2 =
        (objects s).put place.1 place.2 ⟨bytes, typeOf bytes declared⟩ := by
  obtain ⟨hput, hobjects⟩ := hm.put place.1 place.2 ⟨bytes, typeOf bytes declared⟩ s
  rw [keep_of_means hmeans, ← hobjects]
  show ((Workflow.orFail pure (answer (.put place.1 place.2 _) s).1).run answer _).1 = _ ∧
    objects ((Workflow.orFail pure (answer (.put place.1 place.2 _) s).1).run answer _).2 = _
  rw [hput]
  exact ⟨rfl, rfl⟩

-- ---------------------------------------------------------------------------
-- Runs of accesses
-- ---------------------------------------------------------------------------

theorem get?_after_of_puts (hm : KeepsInMemory answer objects) {a : Access}
    (h : a.Puts defaultBucket place o) (s : σ) :
    (objects (a.after answer defaultBucket s)).get? place.1 place.2 = some o := by
  cases h with
  | keep declared hmeans =>
    rw [Access.after, (run_keep hm hmeans _ declared s).2, Store.get?_put, if_pos ⟨rfl, rfl⟩]

theorem get?_after_of_not_puts (hm : KeepsInMemory answer objects) {a : Access}
    (h : ∀ o, ¬ a.Puts defaultBucket place o) (s : σ) :
    (objects (a.after answer defaultBucket s)).get? place.1 place.2 =
      (objects s).get? place.1 place.2 := by
  cases a with
  | keep bucket key bytes declared =>
    by_cases hmeans : ∃ other, Means defaultBucket bucket key other
    · obtain ⟨other, hother⟩ := hmeans
      have hne : ¬ (other.1 = place.1 ∧ other.2 = place.2) := fun ⟨hbucket, hkey⟩ =>
        h _ (.keep declared (Prod.ext hbucket hkey ▸ hother))
      rw [Access.after, (run_keep hm hother bytes declared s).2, Store.get?_put, if_neg hne]
    · obtain ⟨message, -, hkeep⟩ := exists_refused (not_exists.mp hmeans)
      rw [Access.after, hkeep]
      rfl
  | fetch bucket key =>
    by_cases hmeans : ∃ other, Means defaultBucket bucket key other
    · obtain ⟨other, hother⟩ := hmeans
      rw [Access.after, (run_fetch hm hother s).2]
    · obtain ⟨message, hfetch, -⟩ := exists_refused (not_exists.mp hmeans)
      rw [Access.after, hfetch]
      rfl

theorem Leaves.concat_of_not_puts (h : Leaves defaultBucket place history o?)
    (ha : ∀ o, ¬ a.Puts defaultBucket place o) :
    Leaves defaultBucket place (history ++ [a]) o? := by
  cases h with
  | last earlier hputs hlater =>
    rw [List.append_assoc, List.cons_append]
    refine .last earlier hputs fun a' ha' => ?_
    rcases List.mem_append.mp ha' with hmem | hmem
    · exact hlater a' hmem
    · obtain rfl := List.mem_singleton.mp hmem
      exact ha
  | never hnever =>
    refine .never fun a' ha' => ?_
    rcases List.mem_append.mp ha' with hmem | hmem
    · exact hnever a' hmem
    · obtain rfl := List.mem_singleton.mp hmem
      exact ha

theorem leaves_after (hm : KeepsInMemory answer objects) (hs : objects s = .empty)
    (history : List Access) (place : String × String) : Leaves defaultBucket place history
      ((objects (after answer defaultBucket history s)).get? place.1 place.2) := by
  induction history using List.reverseRecOn with
  | nil =>
    rw [after, List.foldl_nil, hs]
    exact .never nofun
  | append_singleton history a ih =>
    rw [after, List.foldl_append, List.foldl_cons, List.foldl_nil]
    by_cases hputs : ∃ o, a.Puts defaultBucket place o
    · obtain ⟨o, ho⟩ := hputs
      rw [get?_after_of_puts hm ho]
      exact .last history ho nofun
    · rw [get?_after_of_not_puts hm (not_exists.mp hputs)]
      exact ih.concat_of_not_puts (not_exists.mp hputs)

/-- After any accesses a client who means a place finds there what was put there last, and may put
something else there, which changes no other place. A client who means no place is told so, and
changes nothing. -/
theorem objects_are_those_put_last (hm : KeepsInMemory answer objects) (hs : objects s = .empty)
    (hafter : after answer defaultBucket history s = s') (bucket key : Option String) :
    (∀ place, Means defaultBucket bucket key place →
      (∃ o?, Leaves defaultBucket place history o? ∧
        ((fetch defaultBucket bucket key).run answer s').1 = found place o? ∧
        objects ((fetch defaultBucket bucket key).run answer s').2 = objects s') ∧
      ∀ bytes declared,
        ((keep defaultBucket bucket key bytes declared).run answer s').1 = .ok () ∧
        ∀ place', (objects ((keep defaultBucket bucket key bytes declared).run answer s').2).get?
            place'.1 place'.2 =
          if place = place' then some ⟨bytes, typeOf bytes declared⟩
          else (objects s').get? place'.1 place'.2) ∧
    ((∀ place, ¬ Means defaultBucket bucket key place) → ∃ message,
      (fetch defaultBucket bucket key).run answer s' = (.error (.invalidInput message), s') ∧
      ∀ bytes declared, (keep defaultBucket bucket key bytes declared).run answer s' =
        (.error (.invalidInput message), s')) := by
  subst hafter
  refine ⟨fun place hmeans => ⟨?_, fun bytes declared => ?_⟩, fun hnone => ?_⟩
  · obtain ⟨hfound, hsame⟩ := run_fetch hm hmeans (after answer defaultBucket history s)
    exact ⟨_, leaves_after hm hs history place, hfound, hsame⟩
  · obtain ⟨hok, hobjects⟩ :=
      run_keep hm hmeans bytes declared (after answer defaultBucket history s)
    refine ⟨hok, fun place' => ?_⟩
    rw [hobjects, Store.get?_put]
    exact if_congr Prod.ext_iff.symm rfl rfl
  · obtain ⟨message, hfetch, hkeep⟩ := exists_refused hnone
    refine ⟨message, ?_, fun bytes declared => ?_⟩
    · rw [hfetch]
      rfl
    · rw [hkeep]
      rfl

end

def objectsAlone : (c : Call) → Store → c.Answer × Store
  | .query _, s => (.ok [], s)
  | .command _, s => (.ok (), s)
  | .embed _, s => (.ok [], s)
  | .draw _, s => (.ok .empty, s)
  | .put bucket key o, s => (.ok (), s.put bucket key o)
  | .get bucket key, s => (.ok (s.get? bucket key), s)
  | .now, s => (0, s)
  | .entropy _, s => (.empty, s)
  | .count _, s => ((), s)
  | .counters, s => (default, s)
  | .note _ _, s => ((), s)

theorem keepsInMemory_objectsAlone : KeepsInMemory objectsAlone id where
  put _ _ _ _ := ⟨rfl, rfl⟩
  get _ _ _ := rfl
  other c s h := by
    cases c with
    | put bucket key o => exact absurd rfl (h bucket key o)
    | _ => rfl

/-- A picture is put twice in one place, and another where the bucket and the key read alike. -/
def pictureTwice : List Access :=
  [.keep none (some "rust.png") ⟨#[0]⟩ (some "image/png"),
    .keep (some "atlas") (some " rust.png ") ⟨#[0x89, 0x50, 0x4E, 0x47]⟩ none,
    .keep (some "atlasrust") (some ".png") ⟨#[2]⟩ none]

theorem second_picture_is_found : KeepsInMemory objectsAlone id ∧
    Means (some "atlas") (some " ") (some "rust.png") ("atlas", "rust.png") ∧
    ∃ s, after objectsAlone (some "atlas") pictureTwice .empty = s ∧
      Leaves (some "atlas") ("atlas", "rust.png") pictureTwice
        (some ⟨⟨#[0x89, 0x50, 0x4E, 0x47]⟩, "image/png"⟩) ∧
      ((fetch (some "atlas") (some " ") (some "rust.png")).run objectsAlone s).1 =
        .ok ⟨⟨#[0x89, 0x50, 0x4E, 0x47]⟩, "image/png"⟩ := by
  have hmeans : Means (some "atlas") (some " ") (some "rust.png") ("atlas", "rust.png") :=
    resolve_eq_ok_iff.mp (by decide +kernel)
  have hread : (((fetch (some "atlas") (some " ") (some "rust.png")).run objectsAlone
      (after objectsAlone (some "atlas") pictureTwice .empty)).1.map fun o =>
        (o.bytes.data, o.contentType)) = .ok (#[0x89, 0x50, 0x4E, 0x47], "image/png") := by
    decide +kernel
  obtain ⟨s, hs⟩ : ∃ s, after objectsAlone (some "atlas") pictureTwice .empty = s := ⟨_, rfl⟩
  have hall :=
    objects_are_those_put_last keepsInMemory_objectsAlone rfl hs (some " ") (some "rust.png")
  obtain ⟨⟨o?, hleaves, hfound, -⟩, -⟩ := hall.1 _ hmeans
  refine ⟨keepsInMemory_objectsAlone, hmeans, s, hs, ?_⟩
  rw [hs, hfound] at hread
  rw [hfound]
  cases o? with
  | none => cases hread
  | some o =>
    obtain ⟨⟨data⟩, contentType⟩ := o
    cases hread
    exact ⟨hleaves, rfl⟩

end KnowledgeGraph.Asset
