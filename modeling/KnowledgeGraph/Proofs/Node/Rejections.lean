import KnowledgeGraph.Proofs.Node.Pictures
import KnowledgeGraph.Proofs.Workflow.Refusals

/-!
# Pictures of nodes that were refused

A creation that is refused has drawn nothing and stored nothing, with one exception: a label that
cannot be written is only found when everything else is done, and then the picture stays behind.
-/

namespace KnowledgeGraph

def Call.Pictures : Call → Prop
  | .draw _ | .put _ _ _ => True
  | _ => False

theorem foldl_kept_of_forall_not {log : List Turn} (h : ∀ turn ∈ log, ¬ turn.call.Pictures)
    (bucket key : String) (o? : Option Asset.Object) :
    log.foldl (Turn.kept bucket key) o? = o? := by
  induction log with
  | nil => rfl
  | cons turn log ih =>
    rw [List.forall_mem_cons] at h
    obtain ⟨call, answer⟩ := turn
    have hkept : Turn.kept bucket key o? ⟨call, answer⟩ = o? := by
      cases call with
      | put => exact absurd trivial h.1
      | _ => rfl
    rw [List.foldl_cons, hkept, ih h.2]

namespace Node

open KnowledgeGraph.Graph

/-- The creation has a place for its picture, gives a name and is like no node that the store told
of, but it has a label that cannot be written. -/
structure Creation.Late (settings : Settings) (bucket? : Option String) (c : Creation)
    (log : List Turn) : Prop where
  placed : bucket?.isSome
  named : ∃ name, c.Names name
  mislabeled : ¬ ∀ label ∈ c.labels, IsName label
  unlike : ∀ embedding rows, ⟨similarToEmbedding settings.vectorIndex embedding 1, .ok rows⟩ ∈
    log.filterMap Turn.exchange? → Unlike settings rows

/-- The picture was drawn for a node of the name, and it is what is stored in the end. -/
structure Creation.Orphans (c : Creation) (log : List Turn) (bucket name : String)
    (seconds : Nat) (bytes : ByteArray) : Prop where
  named : c.Names name
  drawn : ⟨.draw (imagePrompt (c.subject name)), .ok bytes⟩ ∈ log
  stored : ∀ o?, log.foldl (Turn.kept bucket (imageKey name seconds)) o? =
    some ⟨bytes, Asset.sniff bytes⟩

section
variable {settings : Settings} {bucket? : Option String} {c : Creation}

/-- A refused creation has made no call for a picture, or it was late and has stored one. -/
theorem late_or_not_of_run (h : c.Run settings bucket? log (.error e)) (he : e.Refuses) :
    ¬ c.Late settings bucket? log ∧ (∀ turn ∈ log, ¬ turn.call.Pictures) ∨
      c.Late settings bucket? log ∧
        ∃ bucket name seconds bytes, bucket? = some bucket ∧
          c.Orphans log bucket name seconds bytes := by
  have hfailure (failure : Failure) : ¬ failure.toError.Refuses :=
    Error.not_refuses_of_isOperational failure.isOperational_toError
  generalize hr : Except.error e = r at h
  -- A backend that failed is no refusal, so three of the ways are out.
  cases h with
  | refused hnot => exact .inl ⟨fun hlate => hlate.named.elim hnot, List.forall_mem_nil _⟩
  | notEmbedded failure _ => cases hr; exact absurd he (hfailure failure)
  | notCompared failure _ => cases hr; exact absurd he (hfailure failure)
  | notPictured failure _ _ _ => cases hr; exact absurd he (hfailure failure)
  | @similar name rows score embedding hnames hsimilar =>
    refine .inl ⟨fun hlate => ?_, by simp [Creation.compared, Call.Pictures]⟩
    have hunlike := hlate.unlike embedding rows List.mem_cons_self
    rw [tooSimilar?_eq_none_iff.mpr hunlike] at hsimilar
    cases hsimilar
  | @sent name rows log key? embedding log' r hnames hsimilar hpicture hsent =>
    cases hsent with
    | notCreated failure _ => cases hr; exact absurd he (hfailure failure)
    | created _ => cases hr
    | mislabeled hlabels =>
      cases hpicture with
      | unwanted =>
        exact .inl ⟨fun hlate => (nomatch hlate.placed),
          by simp [Creation.compared, Call.Pictures]⟩
      | @stored bucket bytes seconds =>
        refine .inr ⟨⟨rfl, ⟨name, hnames⟩, hlabels, fun embedding' rows' hmem => ?_⟩,
          bucket, name, seconds, bytes, rfl, hnames, by simp, fun o? => ?_⟩
        · cases congrArg Exchange.answer (List.mem_singleton.mp hmem)
          exact tooSimilar?_eq_none_iff.mp hsimilar
        · simp [Creation.compared, Turn.kept]

variable {answer : (c : Call) → σ → c.Answer × σ}
  {object? : σ → String → String → Option Asset.Object}

/-- A refused creation leaves the image generator and the objects alone exactly if it was not
late; else its picture is stored. -/
theorem refusals_leave_no_picture_iff (h : KeepsObjects answer object?)
    (hrun : (add settings bucket? c).run answer s = (.error e, s')) (he : e.Refuses) :
    ((∀ prompt, .draw prompt ∉ ((add settings bucket? c).turns answer s).map (·.call)) ∧
        object? s' = object? s ↔
      ¬ c.Late settings bucket? ((add settings bucket? c).turns answer s)) ∧
    (c.Late settings bucket? ((add settings bucket? c).turns answer s) →
      ∃ bucket name seconds bytes, bucket? = some bucket ∧ c.Names name ∧
        ⟨.draw (imagePrompt (c.subject name)), .ok bytes⟩ ∈
          (add settings bucket? c).turns answer s ∧
        object? s' bucket (imageKey name seconds) = some ⟨bytes, Asset.sniff bytes⟩) := by
  have hkept (bucket key : String) : object? s' bucket key =
      ((add settings bucket? c).turns answer s).foldl (Turn.kept bucket key)
        (object? s bucket key) := by
    rw [← h.kept_run, hrun]
  have hlog := run_of_trace (Workflow.trace_run answer (add settings bucket? c) s)
  rw [hrun] at hlog
  generalize (add settings bucket? c).turns answer s = log at *
  rcases late_or_not_of_run hlog he with ⟨hnot, hnone⟩ | ⟨hlate, orphan⟩
  · refine ⟨iff_of_true ⟨fun prompt hmem => ?_, ?_⟩ hnot, fun hlate => absurd hlate hnot⟩
    · obtain ⟨turn, hturn, hcall⟩ := List.mem_map.mp hmem
      exact hnone turn hturn (hcall ▸ trivial)
    · funext bucket key
      rw [hkept, foldl_kept_of_forall_not hnone]
  · obtain ⟨bucket, name, seconds, bytes, hbucket, horphan⟩ := orphan
    refine ⟨iff_of_false (fun hleft => ?_) (not_not_intro hlate), fun _ =>
      ⟨bucket, name, seconds, bytes, hbucket, horphan.named, horphan.drawn, ?_⟩⟩
    · exact hleft.1 _ (List.mem_map_of_mem horphan.drawn)
    · rw [hkept, horphan.stored]

end

def halfLabeled : Creation := { rust with labels := ["Skill", " "] }

theorem unplaced_leaves_no_picture :
    KeepsObjects gallery (fun g => g.objects.get?) ∧
    ∃ e s', (add {} none halfLabeled).run gallery ⟨0, .empty⟩ = (.error e, s') ∧ e.Refuses ∧
      (∀ prompt, .draw prompt ∉ ((add {} none halfLabeled).turns gallery ⟨0, .empty⟩).map
        (·.call)) ∧
      s'.objects.get? = Asset.Store.empty.get? := by
  have he : (Error.invalidInput "identifier must not be empty").Refuses := .invalidInput _
  have hrun : (add {} none halfLabeled).run gallery ⟨0, .empty⟩ = (.error _, _) := rfl
  have hiff := (refusals_leave_no_picture_iff keepsObjects_gallery hrun he).1
  exact ⟨keepsObjects_gallery, _, _, hrun, he, hiff.mpr fun hlate => nomatch hlate.placed⟩

theorem halfLabeled_leaves_its_picture :
    KeepsObjects gallery (fun g => g.objects.get?) ∧
    ∃ e s', (add {} (some "pictures") halfLabeled).run gallery ⟨0, .empty⟩ = (.error e, s') ∧
      e = .invalidInput "identifier must not be empty" ∧ e.Refuses ∧
      .draw (imagePrompt "Rust: ") ∈
        ((add {} (some "pictures") halfLabeled).turns gallery ⟨0, .empty⟩).map (·.call) ∧
      Asset.Store.empty.get? "pictures" firstRust.key = none ∧
      s'.objects.get? "pictures" firstRust.key = some firstRust.object := by
  refine ⟨keepsObjects_gallery, _, _, rfl, rfl, .invalidInput _, ?_, rfl, rfl⟩
  exact List.mem_of_getElem (i := 2) (h := by decide) rfl

end Node

end KnowledgeGraph
