import KnowledgeGraph.Proofs.Domain.WriteOrder
import KnowledgeGraph.Proofs.Graph.Writing
import KnowledgeGraph.Proofs.Workflow.Errors

/-!
# Edits that do not go well

An edit is no transaction: what was sent before something went wrong stays in the store. It sends
the statements of its sequence of writes up to the first that ends it, and none beyond it; it
succeeds exactly if it is valid and no statement ends it. An error that blames the request comes
before anything is written.
-/

namespace KnowledgeGraph

open Domain
open KnowledgeGraph.Graph (Deed)

inductive Exchange.Ends (x : Exchange) : Prop where
  | failed (failure : Failure) : x.answer = .error failure → x.Ends
  | held (name : String) : x.statement.deed? = some (findByName name) → x.id?.isSome → x.Ends
  | absent (domainId : String) :
      x.statement.deed? = some (findById domainId) → x.answer = .ok [] → x.Ends
  | noId (d : Deed Json) : x.statement.deed? = some d → d.AnswersId → x.id? = none → x.Ends

theorem Exchange.ends_iff_not_granted {x : Exchange} : x.Ends ↔ ¬ x.Granted := by
  constructor
  · rintro h g
    cases h with
    | failed failure hx => simpa [hx] using g.rows
    | held name hst hid => simp [g.free name hst] at hid
    | absent domainId hst hx => exact g.found domainId hst hx
    | noId d hst hd hid => simpa [hid] using g.id d hst hd
  · intro hg
    by_contra hx
    refine hg ⟨?_, fun name hst => ?_, fun domainId hst h => hx (.absent domainId hst h),
      fun d hst hd => ?_⟩
    · rcases ha : x.answer with failure | rows
      · exact absurd (.failed failure ha) hx
      · exact ⟨rows, rfl⟩
    · exact Option.not_isSome_iff_eq_none.mp fun hheld => hx (.held name hst hheld)
    · exact Option.isSome_iff_ne_none.mpr fun hnone => hx (.noId d hst hd hnone)

namespace Domain

-- ---------------------------------------------------------------------------
-- Writes that went well
-- ---------------------------------------------------------------------------

/-- A write that went well was granted. -/
theorem Write.Regular.granted {w : Write} (h : w.Regular) (hx : w.IsCarriedOut x) : x.Granted := by
  obtain ⟨hd, rows, hrows, hr⟩ := hx
  cases h with
  | plain hplain =>
    refine ⟨⟨rows, hrows⟩, fun name hst => ?_, fun domainId hst => ?_, fun d' hst hd' => ?_⟩
    · obtain rfl := Option.some.inj (hd.symm.trans hst)
      exact hplain.elim
    · obtain rfl := Option.some.inj (hd.symm.trans hst)
      exact hplain.elim
    · obtain rfl := Option.some.inj (hd.symm.trans hst)
      exact absurd hd' hplain.not_answersId
  | creating node hid =>
    refine ⟨⟨rows, hrows⟩, fun name hst => ?_, fun domainId hst => ?_, fun _ _ _ => ?_⟩
    · cases hd.symm.trans hst
      exact hid.elim
    · cases hd.symm.trans hst
      exact hid.elim
    · rw [Exchange.id?, hrows]
      exact hr
  | lookupByName name =>
    refine ⟨⟨rows, hrows⟩, fun _ _ => ?_, fun domainId hst => ?_, fun d hst hid => ?_⟩
    · rw [Exchange.id?, hrows]
      simpa [Domain.lookupByName] using hr
    · cases hd.symm.trans hst
    · cases hd.symm.trans hst
      exact hid.elim
  | lookupById domainId =>
    refine ⟨⟨rows, hrows⟩, fun name hst => ?_, fun _ _ hnone => ?_, fun d hst hid => ?_⟩
    · cases hd.symm.trans hst
    · cases hrows.symm.trans hnone
      cases hr
    · cases hd.symm.trans hst
      exact hid.elim

-- ---------------------------------------------------------------------------
-- Where a sequence breaks off
-- ---------------------------------------------------------------------------

theorem CarriedOut.forall_granted (h : CarriedOut ws log) (hws : ∀ w ∈ ws, w.Regular) :
    ∀ x ∈ log, x.Granted := by
  induction h with
  | nil => exact List.forall_mem_nil _
  | cons hx _ ih =>
    obtain ⟨hw, hws⟩ := List.forall_mem_cons.mp hws
    exact List.forall_mem_cons.mpr ⟨hw.granted hx, ih hws⟩

theorem BrokenOff.isPrefix_map_deed (h : BrokenOff ws log) :
    log.map (·.statement.deed?) <+: ws.map fun w => some w.deed := by
  induction h with
  | here hs _ => simp [hs]
  | later hx _ ih => simpa [hx.deed] using ih

theorem BrokenOff.length_eq (h : BrokenOff ws log) (hws : ∀ w ∈ ws, w.Regular)
    (hx : log[i]? = some x) (hend : x.Ends) : log.length = i + 1 := by
  induction h generalizing i with
  | here _ _ =>
    obtain rfl : i = 0 := by
      have := (List.getElem?_eq_some_iff.mp hx).1
      simpa using this
    rfl
  | later hy _ ih =>
    obtain ⟨hw, hws⟩ := List.forall_mem_cons.mp hws
    cases i with
    | zero =>
      cases hx
      exact absurd (hw.granted hy) (Exchange.ends_iff_not_granted.mp hend)
    | succ i => rw [List.length_cons, ih hws hx]

-- ---------------------------------------------------------------------------
-- Errors that blame the request
-- ---------------------------------------------------------------------------

theorem failsOnly_returnedId (rows : List Graph.Record) (operation : String) :
    (liftM (returnedId rows operation) : Workflow String).FailsOnly Error.IsOperational := by
  refine Workflow.failsOnly_lift fun e he => ?_
  rcases hid : elementId? rows with _ | id
  · rw [returnedId_of_none hid] at he
    cases he
    exact ⟨_, _, rfl⟩
  · rw [returnedId_of_some hid] at he
    cases he

theorem failsOnly_writeRequirement (levelId : String) (r : Requirement) :
    (writeRequirement levelId r).FailsOnly Error.IsOperational := by
  unfold writeRequirement
  split
  · exact Workflow.failsOnly_bind (Workflow.failsOnly_query _) fun _ => Workflow.failsOnly_pure _
  · refine Workflow.failsOnly_bind (Workflow.failsOnly_query _) fun rows => ?_
    refine Workflow.failsOnly_bind (failsOnly_returnedId ..) fun id => ?_
    exact Workflow.failsOnly_bind (Workflow.failsOnly_query _) fun _ => Workflow.failsOnly_pure _
  · exact Workflow.failsOnly_pure _

theorem failsOnly_writeLevels (domainId : String) (levels : List Level) :
    (writeLevels domainId levels).FailsOnly Error.IsOperational := by
  have hrequirements (levelId : String) (rs : List Requirement) :
      (writeRequirements levelId rs).FailsOnly Error.IsOperational := by
    induction rs with
    | nil => exact Workflow.failsOnly_pure _
    | cons r rs ih =>
      refine Workflow.failsOnly_bind (failsOnly_writeRequirement levelId r) fun node => ?_
      exact Workflow.failsOnly_bind ih fun nodes => Workflow.failsOnly_pure _
  induction levels with
  | nil => exact Workflow.failsOnly_pure _
  | cons level levels ih =>
    refine Workflow.failsOnly_bind (Workflow.failsOnly_query _) fun rows => ?_
    refine Workflow.failsOnly_bind (failsOnly_returnedId ..) fun levelId => ?_
    refine Workflow.failsOnly_bind (hrequirements levelId _) fun nodes => ?_
    exact Workflow.failsOnly_bind ih fun rest => Workflow.failsOnly_pure _

theorem failsOnly_dropProgress (removed : List String) :
    (dropProgress removed).FailsOnly Error.IsOperational := by
  unfold dropProgress
  split
  · exact Workflow.failsOnly_pure _
  · exact Workflow.failsOnly_bind (Workflow.failsOnly_query _) fun _ => Workflow.failsOnly_pure _

theorem not_writes_idByName (name : String) : ¬ (idByName name).Writes := by
  show ¬ (idByName "").Writes
  decide +kernel

theorem not_writes_nameById (domainId : String) : ¬ (nameById domainId).Writes := by
  show ¬ (nameById "").Writes
  decide +kernel

example : (rename "4:d:1" "Cooking" "Food").Writes := by decide +kernel

section
variable {answer : (c : Call) → σ → c.Answer × σ} {err : Error}

/-- A workflow that looks something up and then refuses or only fails operationally: it blames the
request before it has sent anything else. -/
theorem only_lookup_of_blame {st : Graph.Statement} {f : List Graph.Record → Workflow α}
    (hf : ∀ rows, (∃ e, f rows = Workflow.refuse e) ∨ (f rows).FailsOnly Error.IsOperational)
    (hrun : ((Workflow.query st >>= f).run answer s).1 = .error err) (herr : ¬ err.IsOperational) :
    ∀ x ∈ (Workflow.query st >>= f).exchanges answer s, x.statement = st := by
  rcases ha : answer (.query st) s with ⟨failure | rows, s'⟩
  · rw [Workflow.run_query_bind_of_error ha] at hrun
    cases hrun
    exact absurd failure.isOperational_toError herr
  · rw [Workflow.run_query_bind_of_ok ha] at hrun
    rw [Workflow.exchanges_query_bind_of_ok ha]
    rcases hf rows with ⟨e, he⟩ | honly
    · rw [he]
      simp [Workflow.refuse, Workflow.exchanges, Workflow.turns]
    · exact absurd (honly.error_of_run (Prod.ext hrun rfl)) herr

theorem log_of_not_valid {e : Edit} (h : ¬ e.Valid) :
    e.workflow.exchanges answer s = [] ∧ ∃ err, (e.workflow.run answer s).1 = .error err := by
  obtain ⟨err, he⟩ : ∃ err, e.workflow = Workflow.refuse err := by
    cases e with
    | creation c => exact add_of_not_valid h
    | update u => exact change_of_not_valid h
  rw [he]
  exact ⟨rfl, err, rfl⟩

theorem not_writes_of_blame {e : Edit} (hrun : (e.workflow.run answer s).1 = .error err)
    (herr : ¬ err.IsOperational) :
    ∀ x ∈ e.workflow.exchanges answer s, ¬ x.statement.Writes := by
  by_cases hv : e.Valid
  · intro x hx
    cases e with
    | creation c =>
      have hw : (Edit.creation c).workflow = _ := add_of_valid hv
      rw [hw] at hrun hx
      rw [only_lookup_of_blame (fun rows => ?_) hrun herr x hx]
      · exact not_writes_idByName _
      -- Somebody holds the name, or whatever fails from here on fails operationally.
      split
      · exact .inl ⟨_, rfl⟩
      · refine .inr (Workflow.failsOnly_bind (Workflow.failsOnly_query _) fun rows => ?_)
        refine Workflow.failsOnly_bind (failsOnly_returnedId ..) fun domainId => ?_
        refine Workflow.failsOnly_bind (failsOnly_writeLevels ..) fun nodes => ?_
        exact Workflow.failsOnly_bind (Workflow.failsOnly_count _) fun _ =>
          Workflow.failsOnly_pure _
    | update u =>
      have hw : (Edit.update u).workflow = _ := change_of_valid hv
      rw [hw] at hrun hx
      rw [only_lookup_of_blame (fun rows => ?_) hrun herr x hx]
      · exact not_writes_nameById _
      split
      · exact .inl ⟨_, rfl⟩
      · refine .inr (Workflow.failsOnly_bind (failsOnly_dropProgress _) fun affected => ?_)
        refine Workflow.failsOnly_bind (Workflow.failsOnly_query _) fun _ => ?_
        refine Workflow.failsOnly_bind (Workflow.failsOnly_query _) fun _ => ?_
        refine Workflow.failsOnly_bind (failsOnly_writeLevels ..) fun nodes => ?_
        exact Workflow.failsOnly_bind (Workflow.failsOnly_count _) fun _ =>
          Workflow.failsOnly_pure _
  · rw [(log_of_not_valid hv).1]
    exact List.forall_mem_nil _

end

-- ---------------------------------------------------------------------------
-- What an edit sends, whatever it is answered
-- ---------------------------------------------------------------------------

section
variable (answer : (c : Call) → σ → c.Answer × σ) (e : Edit) (s : σ)

def Edit.log : List Exchange := e.workflow.exchanges answer s

def Edit.outcome : Except Error Written := (e.workflow.run answer s).1

def Edit.answeredWrites : List Write := e.writes (idAt (e.log answer s))

variable {e}

theorem outcome_of_valid (h : e.Valid) :
    (∃ w, e.outcome answer s = .ok w ∧
      CarriedOut (e.answeredWrites answer s) (e.log answer s)) ∨
    (∃ err, e.outcome answer s = .error err ∧
      BrokenOff (e.answeredWrites answer s) (e.log answer s)) := by
  rcases follows_edit answer _ h s (agrees_idAt _) with
    ⟨w, s', hrun, hdone, -⟩ | ⟨err, s', hrun, hbroken⟩
  · exact .inl ⟨w, congrArg Prod.fst hrun, hdone⟩
  · exact .inr ⟨err, congrArg Prod.fst hrun, hbroken⟩

variable (e)

theorem isPrefix_log : (e.log answer s).map (·.statement.deed?) <+:
    (e.answeredWrites answer s).map fun w => some w.deed := by
  by_cases hv : e.Valid
  · rcases outcome_of_valid answer s hv with ⟨w, -, hdone⟩ | ⟨err, -, hbroken⟩
    · exact hdone.map_deed ▸ List.prefix_rfl
    · exact hbroken.isPrefix_map_deed
  · rw [Edit.log, (log_of_not_valid hv).1]
    exact List.nil_prefix

theorem length_log_of_ends (hx : (e.log answer s)[i]? = some x) (hend : x.Ends) :
    (e.log answer s).length = i + 1 := by
  by_cases hv : e.Valid
  · rcases outcome_of_valid answer s hv with ⟨w, -, hdone⟩ | ⟨err, -, hbroken⟩
    · have hg := hdone.forall_granted (regular_writes _ e) x (List.mem_of_getElem? hx)
      exact absurd hg (Exchange.ends_iff_not_granted.mp hend)
    · exact hbroken.length_eq (regular_writes _ e) hx hend
  · rw [Edit.log, (log_of_not_valid hv).1] at hx
    cases hx

theorem outcome_eq_error_iff : (∃ err, e.outcome answer s = .error err) ↔
    ¬ e.Valid ∨ ∃ x ∈ e.log answer s, x.Ends := by
  by_cases hv : e.Valid
  · rcases outcome_of_valid answer s hv with ⟨w, hok, hdone⟩ | ⟨err, herr, hbroken⟩
    · have hg := hdone.forall_granted (regular_writes _ e)
      simp only [hok, reduceCtorEq, exists_false, hv, not_true_eq_false, false_or, false_iff]
      rintro ⟨x, hx, hend⟩
      exact Exchange.ends_iff_not_granted.mp hend (hg x hx)
    · obtain ⟨w, hw, x, hx, hst, hnot⟩ := hbroken.exists
      refine ⟨fun _ => .inr ⟨x, hx, Exchange.ends_iff_not_granted.mpr fun hg => ?_⟩,
        fun _ => ⟨err, herr⟩⟩
      exact hnot ((regular_writes _ e w hw).isCarriedOut hst hg)
  · exact ⟨fun _ => .inl hv, fun _ => (log_of_not_valid hv).2⟩

theorem log_of_outcome_ok (hok : e.outcome answer s = .ok w) :
    (e.log answer s).map (·.statement.deed?) =
      (e.answeredWrites answer s).map fun w => some w.deed := by
  by_cases hv : e.Valid
  · rcases outcome_of_valid answer s hv with ⟨w, -, hdone⟩ | ⟨err, herr, -⟩
    · exact hdone.map_deed
    · rw [herr] at hok
      cases hok
  · obtain ⟨err, herr⟩ : ∃ err, e.outcome answer s = .error err := (log_of_not_valid hv).2
    rw [herr] at hok
    cases hok

/-- An edit does the deeds of its sequence of writes in order, with the ids that it is answered, and
sends nothing after an exchange that ends it. It comes to an error exactly if it is not
valid or an exchange ends it, and has sent the whole sequence otherwise. An error that blames the
request comes before anything is written. -/
theorem edit_stops_where_it_ends :
    ((e.log answer s).map (·.statement.deed?) <+:
        (e.answeredWrites answer s).map fun w => some w.deed) ∧
      (∀ i x, (e.log answer s)[i]? = some x → x.Ends → (e.log answer s).length = i + 1) ∧
      ((∃ err, e.outcome answer s = .error err) ↔
        ¬ e.Valid ∨ ∃ x ∈ e.log answer s, x.Ends) ∧
      (∀ w, e.outcome answer s = .ok w →
        (e.log answer s).map (·.statement.deed?) =
          (e.answeredWrites answer s).map fun w => some w.deed) ∧
      ∀ err, e.outcome answer s = .error err →
        (∃ message, err = .invalidInput message ∨ err = .notFound message) →
        ∀ x ∈ e.log answer s, ¬ x.statement.Writes := by
  refine ⟨isPrefix_log answer e s, fun i x => length_log_of_ends answer e s,
    outcome_eq_error_iff answer e s, fun w => log_of_outcome_ok answer e s, ?_⟩
  rintro err herr ⟨message, hblame⟩
  refine not_writes_of_blame herr ?_
  rintro ⟨operation, cause, hop⟩
  rcases hblame with h | h <;> rw [hop] at h <;> cases h

end

end Domain

end KnowledgeGraph
