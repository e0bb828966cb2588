import Mathlib.Data.List.Forall2
import KnowledgeGraph.Proofs.Schema.Collection
import KnowledgeGraph.Proofs.Text.Utf8
import KnowledgeGraph.Proofs.Workflow.Errors
import KnowledgeGraph.Proofs.Workflow.Turns
import KnowledgeGraph.Schema.Loading

/-!
# Loading scripts

What is sent of a list of scripts, and what is counted. A script goes to the store up to its first
statement that fails, and the next script follows all the same; a script that cannot be read ends the
loading, with what was sent before.
-/

namespace KnowledgeGraph

namespace Schema

def Script.Holds (file : Script) (text : String) : Prop :=
  ∃ bytes, file.content = .ok bytes ∧ Text.Utf8.text? bytes.toList = some text

def Script.IsText (file : Script) : Prop := ∃ text, file.Holds text

theorem scriptText_eq_ok_iff {file : Script} : scriptText file = .ok text ↔ file.Holds text := by
  obtain ⟨path, content⟩ := file
  cases content with
  | error fault => simp [scriptText, Script.Holds, bind, Except.bind]
  | ok bytes =>
    cases htext : Text.Utf8.text? bytes.toList <;>
      simp [scriptText, Script.Holds, bind, Except.bind, Files.readText, htext]

def accepted (x : Exchange) : Bool := x.answer.isOk

/-- What is sent of the statements of a script: all, or all up to the first that fails. -/
inductive Sent : List String → List Exchange → Prop where
  | nil : Sent [] []
  | failed (failure : Failure) : Sent (st :: statements) [⟨silent [st], .error failure⟩]
  | accepted : Sent statements log → Sent (st :: statements) (⟨silent [st], .ok []⟩ :: log)

def Script.Sends (file : Script) (log : List Exchange) : Prop :=
  ∃ text, file.Holds text ∧ Sent (splitStatements text) log

theorem Sent.eq_nil_iff (h : Sent statements log) : log = [] ↔ statements = [] := by
  cases h <;> simp

theorem Script.Sends.sent {file : Script} (h : file.Sends log) (htext : file.Holds text) :
    Sent (splitStatements text) log := by
  obtain ⟨text', htext', hsent⟩ := h
  rw [← scriptText_eq_ok_iff] at htext htext'
  cases htext.symm.trans htext'
  exact hsent

theorem Script.Sends.eq_nil_iff {file : Script} (h : file.Sends log) (htext : file.Holds text) :
    log = [] ↔ splitStatements text = [] :=
  (h.sent htext).eq_nil_iff

theorem flatten_eq_nil_iff_of_sends (h : List.Forall₂ Script.Sends files runs) :
    runs.flatten = [] ↔ ∀ file ∈ files, ∀ text, file.Holds text → splitStatements text = [] := by
  induction h with
  | nil => simp
  | @cons file run files runs hfile _ ih =>
    rw [List.flatten_cons, List.append_eq_nil_iff, ih, List.forall_mem_cons]
    refine and_congr_left fun _ => ⟨fun hrun text htext => (hfile.eq_nil_iff htext).1 hrun, fun h => ?_⟩
    obtain ⟨text, htext, -⟩ := id hfile
    exact (hfile.eq_nil_iff htext).2 (h text htext)

section
variable {answer : (c : Call) → σ → c.Answer × σ}

-- ---------------------------------------------------------------------------
-- One script
-- ---------------------------------------------------------------------------

theorem sent_runStatements (statements : List String) (s : σ) :
    ∃ log s', Sent statements log ∧ (runStatements statements).exchanges answer s = log ∧
      (runStatements statements).run answer s =
        (.ok (log.countP accepted, log.all accepted), s') := by
  induction statements generalizing s with
  | nil => exact ⟨[], s, .nil, rfl, rfl⟩
  | cons st statements ih =>
    obtain ⟨outcome, s', hanswer⟩ : ∃ outcome s',
        answer (.command (silent [st])) s = (outcome, s') := ⟨_, _, rfl⟩
    have hattempt := Workflow.run_attempt answer (Workflow.command (silent [st])) s
    rw [Workflow.run_command hanswer] at hattempt
    rw [runStatements, Workflow.run_bind_of_ok hattempt, Workflow.exchanges_bind_of_ok hattempt,
      Workflow.exchanges_attempt, Workflow.exchanges_command hanswer]
    cases outcome with
    | error failure => exact ⟨_, s', .failed failure, rfl, rfl⟩
    | ok _ =>
      obtain ⟨log, s'', hsent, hlog, hrun⟩ := ih s'
      refine ⟨_, s'', .accepted hsent, ?_, ?_⟩
      · show _ ++ (runStatements statements >>= _).exchanges answer s' = _
        rw [Workflow.exchanges_bind_of_ok hrun, hlog]
        simp [Except.map]
        rfl
      · show (runStatements statements >>= _).run answer s' = _
        rw [Workflow.run_bind_of_ok hrun, List.countP_cons_of_pos rfl, List.all_cons]
        rfl

theorem runScripts_cons {file : Script} (h : file.Holds text) (files : List Script)
    (sum : Summary) : runScripts (file :: files) sum =
      runStatements (splitStatements text) >>= fun r => runScripts files (sum.add r.1 r.2) := by
  rw [runScripts, scriptText_eq_ok_iff.2 h]
  rfl

theorem runScripts_cons_of_holds {file : Script} (h : file.Holds text) (sum : Summary) (s : σ) :
    ∃ log s', file.Sends log ∧ ∀ files,
      (runScripts (file :: files) sum).exchanges answer s =
        log ++ (runScripts files (sum.add (log.countP accepted) (log.all accepted))).exchanges
          answer s' ∧
      (runScripts (file :: files) sum).run answer s =
        (runScripts files (sum.add (log.countP accepted) (log.all accepted))).run answer s' := by
  obtain ⟨log, s', hsent, hlog, hrun⟩ := sent_runStatements (splitStatements text) s
  refine ⟨log, s', ⟨text, h, hsent⟩, fun files => ?_⟩
  rw [runScripts_cons h]
  exact ⟨by rw [Workflow.exchanges_bind_of_ok hrun, hlog], by rw [Workflow.run_bind_of_ok hrun]⟩

/-- A script that cannot be read ends it all. -/
theorem runScripts_cons_of_not_isText {file : Script} (h : ¬ file.IsText) (files : List Script)
    (sum : Summary) (s : σ) :
    (runScripts (file :: files) sum).exchanges answer s = [] ∧
      ∃ e, (runScripts (file :: files) sum).run answer s = (.error e, s) := by
  cases htext : scriptText file with
  | ok text => exact absurd ⟨text, scriptText_eq_ok_iff.1 htext⟩ h
  | error e =>
    rw [runScripts, htext]
    exact ⟨rfl, e, rfl⟩

-- ---------------------------------------------------------------------------
-- Scripts one after the other
-- ---------------------------------------------------------------------------

def Summary.plus (sum : Summary) (runs : List (List Exchange)) : Summary where
  filesLoaded := sum.filesLoaded + runs.countP (·.all accepted)
  filesFailed := sum.filesFailed + runs.countP (!·.all accepted)
  statements := sum.statements + runs.flatten.countP accepted

theorem Summary.plus_cons (sum : Summary) (run : List Exchange) (runs : List (List Exchange)) :
    sum.plus (run :: runs) = (sum.add (run.countP accepted) (run.all accepted)).plus runs := by
  cases h : run.all accepted <;> simp [plus, add, h, Nat.add_assoc, Nat.add_comm]

theorem runScripts_append {files : List Script} (h : ∀ file ∈ files, file.IsText) (sum : Summary)
    (s : σ) :
    ∃ runs s', List.Forall₂ Script.Sends files runs ∧ ∀ rest,
      (runScripts (files ++ rest) sum).exchanges answer s =
        runs.flatten ++ (runScripts rest (sum.plus runs)).exchanges answer s' ∧
      (runScripts (files ++ rest) sum).run answer s =
        (runScripts rest (sum.plus runs)).run answer s' := by
  induction files generalizing sum s with
  | nil => exact ⟨[], s, .nil, fun rest => ⟨rfl, rfl⟩⟩
  | cons file files ih =>
    obtain ⟨⟨text, htext⟩, hfiles⟩ := List.forall_mem_cons.1 h
    obtain ⟨log, s', hsends, hfile⟩ := runScripts_cons_of_holds htext sum s
    obtain ⟨runs, s'', hruns, hrest⟩ :=
      ih hfiles (sum.add (log.countP accepted) (log.all accepted)) s'
    refine ⟨log :: runs, s'', .cons hsends hruns, fun rest => ?_⟩
    obtain ⟨hsent, hrun⟩ := hfile (files ++ rest)
    obtain ⟨hsent', hrun'⟩ := hrest rest
    rw [List.cons_append, hsent, hrun, hsent', hrun', Summary.plus_cons]
    simp

/-- Scripts can all be read, or there is a first that cannot. -/
theorem isText_or_exists (files : List Script) :
    (∀ file ∈ files, file.IsText) ∨ ∃ before file after, files = before ++ file :: after ∧
      (∀ b ∈ before, b.IsText) ∧ ¬ file.IsText := by
  induction files with
  | nil => exact .inl (List.forall_mem_nil _)
  | cons file files ih =>
    by_cases hfile : file.IsText
    · rcases ih with hall | ⟨before, bad, after, rfl, hbefore, hbad⟩
      · exact .inl (List.forall_mem_cons.2 ⟨hfile, hall⟩)
      · exact .inr ⟨file :: before, bad, after, rfl, List.forall_mem_cons.2 ⟨hfile, hbefore⟩, hbad⟩
    · exact .inr ⟨[], file, files, rfl, List.forall_mem_nil _, hfile⟩

-- ---------------------------------------------------------------------------
-- The scripts of a folder
-- ---------------------------------------------------------------------------

variable {found : Except Files.Fault Files.Folder}

def wiped (wiping : Bool) : List Exchange := if wiping then [⟨wipe, .ok []⟩] else []

theorem load_of_collect_ok (hcollect : collect path found = .ok files)
    (hwipe : wiping = true → (answer (.command wipe) s).1 = .ok ()) :
    ∃ s', (load path found wiping).exchanges answer s =
        wiped wiping ++ (runScripts files ⟨0, 0, 0⟩).exchanges answer s' ∧
      (load path found wiping).run answer s = (runScripts files ⟨0, 0, 0⟩).run answer s' := by
  rw [load, hcollect]
  cases wiping with
  | false => exact ⟨s, rfl, rfl⟩
  | true =>
    have hanswer : answer (.command wipe) s = (.ok (), (answer (.command wipe) s).2) :=
      Prod.ext (hwipe rfl) rfl
    refine ⟨(answer (.command wipe) s).2, ?_, ?_⟩
    · show (Workflow.command wipe >>= _).exchanges answer s = _
      rw [Workflow.exchanges_bind_of_ok (Workflow.run_command hanswer),
        Workflow.exchanges_command hanswer]
      rfl
    · show (Workflow.command wipe >>= _).run answer s = _
      rw [Workflow.run_bind_of_ok (Workflow.run_command hanswer)]

theorem load_of_collect_error (hcollect : collect path found = .error e) (wiping : Bool) (s : σ) :
    (load path found wiping).exchanges answer s = [] ∧
      (load path found wiping).run answer s = (.error e, s) := by
  rw [load, hcollect]
  exact ⟨rfl, rfl⟩

theorem load_of_isText (hcollect : collect path found = .ok files)
    (htext : ∀ file ∈ files, file.IsText)
    (hwipe : wiping = true → (answer (.command wipe) s).1 = .ok ()) :
    ∃ runs, List.Forall₂ Script.Sends files runs ∧
      (load path found wiping).exchanges answer s = wiped wiping ++ runs.flatten ∧
      ((load path found wiping).run answer s).1 =
        .ok ⟨runs.countP (·.all accepted), runs.countP (!·.all accepted),
          runs.flatten.countP accepted⟩ := by
  obtain ⟨s', hsent, hrun⟩ := load_of_collect_ok hcollect hwipe
  obtain ⟨runs, s'', hruns, hscripts⟩ := runScripts_append htext ⟨0, 0, 0⟩ s'
  obtain ⟨hsent', hrun'⟩ := hscripts []
  rw [List.append_nil] at hsent' hrun'
  refine ⟨runs, hruns, ?_, ?_⟩
  · rw [hsent, hsent']
    simp [runScripts]
    rfl
  · rw [hrun, hrun']
    simp [runScripts, Summary.plus]
    rfl

def folderOfTwo (first second : ByteArray) : Files.Folder :=
  .cons "2.cypher" (.file second) (.cons "1.cypher" (.file first) .nil)

theorem collect_folderOfTwo (first second : ByteArray) :
    collect "d" (.ok (folderOfTwo first second)) =
      .ok [⟨"d/1.cypher", .ok first⟩, ⟨"d/2.cypher", .ok second⟩] := by
  have hone : Files.extension? "1.cypher" = some scriptExtension := by decide
  have htwo : Files.extension? "2.cypher" = some scriptExtension := by decide
  have hfiles : (scriptFiles (folderOfTwo first second)).mergeSort byName =
      [("1.cypher", .ok first), ("2.cypher", .ok second)] := by
    simp [scriptFiles, folderOfTwo, Files.Folder.entries, scriptFile?, hone, htwo,
      Files.Entry.content?, List.mergeSort, byName]
  have hinner : (innerScripts "d" (folderOfTwo first second)).mergeSort byName = [] :=
    List.mergeSort_nil
  have hjoin : Files.join "d" "1.cypher" = "d/1.cypher" ∧
      Files.join "d" "2.cypher" = "d/2.cypher" := by
    decide +kernel
  simp only [collect, scripts, inOrder, hfiles, hinner, List.map_cons, List.map_nil, hjoin]
  rfl

/-- A loading that fails, though not at the wipe, has sent nothing exactly if nothing was wiped and
no statement stands in the scripts before the first that cannot be read. Nothing is ever sent where
the folders cannot be listed. -/
theorem failed_loadings_send_nothing_iff
    (hwipe : wiping = true → (answer (.command wipe) s).1 = .ok ()) :
    ((∃ e, ((load path found wiping).run answer s).1 = .error e) →
        (load path found wiping).exchanges answer s = []) ↔
      ∀ before file after, collect path found = .ok (before ++ file :: after) →
        (∀ b ∈ before, b.IsText) → ¬ file.IsText →
        wiping = false ∧ ∀ b ∈ before, ∀ text, b.Holds text → splitStatements text = [] := by
  constructor
  · intro h before file after hcollect hbefore hfile
    obtain ⟨s', hsent, hrun⟩ := load_of_collect_ok hcollect hwipe
    obtain ⟨runs, s'', hruns, hscripts⟩ := runScripts_append hbefore ⟨0, 0, 0⟩ s'
    obtain ⟨hsent', hrun'⟩ := hscripts (file :: after)
    obtain ⟨hstop, e, hfailed⟩ := runScripts_cons_of_not_isText hfile after
      (Summary.plus ⟨0, 0, 0⟩ runs) s''
    have hnothing := h ⟨e, by rw [hrun, hrun', hfailed]⟩
    rw [hsent, hsent', hstop, List.append_nil, List.append_eq_nil_iff,
      flatten_eq_nil_iff_of_sends hruns] at hnothing
    exact ⟨by simpa [wiped] using hnothing.1, hnothing.2⟩
  · rintro h ⟨e, he⟩
    cases hcollect : collect path found with
    | error cause => exact (load_of_collect_error hcollect wiping s).1
    | ok files =>
      rcases isText_or_exists files with htext | ⟨before, file, after, rfl, hbefore, hfile⟩
      · obtain ⟨runs, -, -, hrun⟩ := load_of_isText hcollect htext hwipe
        cases hrun.symm.trans he
      · obtain ⟨hwiping, hempty⟩ := h before file after hcollect hbefore hfile
        obtain ⟨s', hsent, -⟩ := load_of_collect_ok hcollect hwipe
        obtain ⟨runs, s'', hruns, hscripts⟩ := runScripts_append hbefore ⟨0, 0, 0⟩ s'
        rw [hsent, (hscripts _).1, (flatten_eq_nil_iff_of_sends hruns).2 hempty,
          (runScripts_cons_of_not_isText hfile after _ s'').1, hwiping]
        rfl

end

def folderOfClosed : Files.Folder :=
  .cons "sub" (.closedFolder (.system "Permission denied (os error 13)")) .nil

theorem closedFolder_leaves_the_graph :
    (true = true → (emptyStore (.command wipe) ()).1 = .ok ()) ∧
      (∃ e, ((load "d" (.ok folderOfClosed) true).run emptyStore ()).1 = .error e) ∧
      (load "d" (.ok folderOfClosed) true).exchanges emptyStore () = [] := by
  have hwipe : true = true → (emptyStore (.command wipe) ()).1 = .ok () := fun _ => rfl
  have hcollect : collect "d" (.ok folderOfClosed) =
      .error (closed (Files.join "d" "sub") (.system "Permission denied (os error 13)")) := by
    simp [collect, scripts, inOrder, folderOfClosed, innerScripts, Files.Folder.tear?]
  have hfailed : ∃ e, ((load "d" (.ok folderOfClosed) true).run emptyStore ()).1 = .error e :=
    ⟨_, congrArg Prod.fst (load_of_collect_error hcollect true ()).2⟩
  refine ⟨hwipe, hfailed, (failed_loadings_send_nothing_iff hwipe).2 ?_ hfailed⟩
  intro before file after hfiles
  cases hcollect.symm.trans hfiles

def brokenBytes : ByteArray := ⟨#[0xC3, 0x28]⟩

theorem not_isText_brokenBytes (path : String) : ¬ Script.IsText ⟨path, .ok brokenBytes⟩ := by
  rintro ⟨text, bytes, hbytes, htext⟩
  cases hbytes
  have hnone : Text.Utf8.text? brokenBytes.toList = none := by decide +kernel
  cases hnone.symm.trans htext

theorem unreadableScript_comes_after_the_wipe :
    (∀ st s, (emptyStore (.command st) s).1 = .ok ()) ∧
      (∃ e, ((load "d" (.ok (folderOfTwo brokenBytes .empty)) true).run emptyStore ()).1 =
        .error e) ∧
      (load "d" (.ok (folderOfTwo brokenBytes .empty)) true).exchanges emptyStore () =
        [⟨wipe, .ok []⟩] := by
  have hwipe : true = true → (emptyStore (.command wipe) ()).1 = .ok () := fun _ => rfl
  obtain ⟨s', hsent, hrun⟩ := load_of_collect_ok (collect_folderOfTwo brokenBytes .empty) hwipe
  obtain ⟨hstop, e, hfailed⟩ := runScripts_cons_of_not_isText (not_isText_brokenBytes "d/1.cypher")
    [⟨"d/2.cypher", .ok .empty⟩] ⟨0, 0, 0⟩ s'
  refine ⟨fun _ _ => rfl, ⟨e, ?_⟩, ?_⟩
  · rw [hrun, hfailed]
  · rw [hsent, hstop]
    rfl

end Schema

end KnowledgeGraph
