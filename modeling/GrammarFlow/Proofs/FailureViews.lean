import GrammarFlow.CommandLine.Session
import GrammarFlow.Proofs.ListingLines
import GrammarFlow.Proofs.StateLookups
import GrammarFlow.Proofs.WorkflowRuns

/-!
The views of a failure agree. The exit code of a session tells whether its last state has errors, and that also
counts exceptions; its summary and its listing count diagnoses. No stage leaves an exception without an error
among its diagnoses, so all of them say the same of a state that a workflow can come to.
-/

namespace GrammarFlow

namespace State

/-- The states that a user can come by: inputs, what workflows make of them, and what one goes back to. -/
inductive Reached : State → Prop where
  | input (project : Project) : Reached (.input project)
  | resumed {workflow : Workflow} {system : System} {start last : State} {world after : World}
      (reached : Reached start) (ok : workflow.resume system start world = (.ok last, after)) : Reached last
  | rolledBack {stage : Stage} {state earlier : State} (reached : Reached state)
      (back : state.rollback? stage = some earlier) : Reached earlier

/-- A chain in which every exception is also told of by an error. -/
structure Accounted (state : State) : Prop where
  built : state.Built
  reported : ∀ node ∈ state.ancestors, node.exception ≠ none →
    ∃ found ∈ node.diagnoses, found.severity = .error

variable {state node : State}

theorem accounted_input (project : Project) : (State.input project).Accounted where
  built := .input project
  reported node among failed := by
    obtain rfl := List.mem_singleton.1 among
    exact absurd rfl failed

theorem Accounted.of_mem_ancestors (accounted : state.Accounted) (earlier : node ∈ state.ancestors) :
    node.Accounted where
  built := accounted.built.of_mem_ancestors earlier
  reported other before := accounted.reported other ((ancestors_suffix earlier).subset before)

theorem ToldBy.reported {told : List Diagnosis} (toldBy : state.ToldBy told) (failed : state.exception ≠ none) :
    ∃ found ∈ state.diagnoses, found.severity = .error := by
  obtain ⟨error, exception⟩ := Option.ne_none_iff_exists'.1 failed
  unfold ToldBy at toldBy
  rw [exception] at toldBy
  obtain ⟨kind, earlier, later, -, recorded⟩ := toldBy
  exact ⟨_, recorded ▸ List.mem_append_right _ List.mem_cons_self, rfl⟩

end State

theorem Advanced.accounted {previous next : State} {before after : World}
    (advanced : Advanced previous before next after) (accounted : previous.Accounted) : next.Accounted := by
  obtain ⟨-, ⟨artifacts, outcome, follows, rfl⟩, events, -, told⟩ := advanced
  refine ⟨accounted.built.derive follows, ?_⟩
  intro node among failed
  obtain rfl | earlier := List.mem_cons.1 among
  · exact told.reported failed
  · exact accounted.reported node earlier failed

theorem Workflow.Goes.accounted {workflow : Workflow} {system : System} {start last : State} {world after : World}
    (goes : workflow.Goes system start world (.ok last) after) (accounted : start.Accounted) : last.Accounted := by
  refine goes.ok_induction (motive := fun state _ => state.Accounted → last.Accounted) ?_ ?_ id accounted
  · exact fun _ accounted => accounted
  · exact fun _ made further accounted => further (made.accounted accounted)

namespace State
variable {state : State}

theorem Reached.accounted (reached : state.Reached) : state.Accounted := by
  induction reached with
  | input project => exact accounted_input project
  | @resumed workflow system start last world after reached ok ih =>
    have goes := workflow.goes_resume system start world
    rw [ok] at goes
    exact goes.accounted ih
  | rolledBack reached back ih => exact ih.of_mem_ancestors (mem_ancestors_of_rollback? back)

theorem Reached.of_run {workflow : Workflow} {system : System} {world after : World}
    (ok : workflow.run system world = (.ok state, after)) : state.Reached :=
  .resumed (.input workflow.project) ok

theorem mem_allDiagnoses {found : Diagnosis} :
    found ∈ state.allDiagnoses ↔ ∃ node ∈ state.ancestors, found ∈ node.diagnoses := by
  simp [allDiagnoses]

/-- With an error behind every exception the flag can be read off the diagnoses alone. -/
theorem Accounted.hasErrors_iff (accounted : state.Accounted) :
    state.hasErrors = true ↔ ∃ found ∈ state.allDiagnoses, found.severity = .error := by
  rw [accounted.built.hasErrors_iff]
  constructor
  · rintro ⟨node, among, itself⟩
    obtain ⟨found, recorded, error⟩ : ∃ found ∈ node.diagnoses, found.severity = .error :=
      itself.elim (accounted.reported node among) id
    exact ⟨found, mem_allDiagnoses.2 ⟨node, among, recorded⟩, error⟩
  · rintro ⟨found, recorded, error⟩
    obtain ⟨node, among, recorded⟩ := mem_allDiagnoses.1 recorded
    exact ⟨node, among, .inr ⟨found, recorded, error⟩⟩

end State

namespace CommandLine

theorem exitCode_eq_one_iff {state : State} : exitCode state = 1 ↔ state.hasErrors = true := by
  unfold exitCode
  split <;> simp_all [Session.exitErrors]

theorem summaryLine_eq_ok_iff {state : State} : summaryLine state = state.stage.name ++ ": ok" ↔
    ¬∃ found ∈ state.allDiagnoses, found.severity = .error := by
  have none : (state.allDiagnoses.filter Diagnosis.isError).length = 0 ↔
      ¬∃ found ∈ state.allDiagnoses, found.severity = .error := by
    simp [Diagnosis.isError]
  rw [← none]
  unfold summaryLine
  dsimp only
  split
  next zero => exact iff_of_true (String.append_assoc ..) zero
  next errors =>
    refine iff_of_false (fun same => ?_) errors
    have lengths := congrArg String.length same
    simp only [String.length_append] at lengths
    have ok : ": ok".length = 4 := rfl
    have colon : ": ".length = 2 := rfl
    have word : " error(s)".length = 9 := rfl
    omega

section
variable {system : System} {workflow : Workflow} {files : FileStore} {last : State} {world : World}

theorem runWorkflow_code (ok : workflow.run system (.start files .listening) = (.ok last, world)) (json : Bool) :
    (runWorkflow system workflow json files).code = exitCode last := by
  cases json <;> simp [runWorkflow, ok]

theorem runWorkflow_summary (ok : workflow.run system (.start files .listening) = (.ok last, world)) :
    (runWorkflow system workflow false files).out.getLast? = some (summaryLine last) := by
  simp [runWorkflow, ok]

theorem runWorkflow_listing (ok : workflow.run system (.start files .listening) = (.ok last, world)) :
    (runWorkflow system workflow true files).out = [listing last.allDiagnoses] := by
  simp [runWorkflow, ok]

end

/-- A session that is not the run of a workflow to a last state ends with another code than that of errors. -/
theorem run_cases (system : System) (words : List String) (files : FileStore) :
    (∃ workflow json last world, run system words files = runWorkflow system workflow json files ∧
      workflow.run system (.start files .listening) = (.ok last, world)) ∨
    (run system words files).code ∈
      [0, Session.exitUsage, Session.exitInterrupted, Session.exitCrashed] := by
  unfold run
  split
  next => exact .inr (by simp [Session.refuse])
  next => exact .inr (by simp [Session.print])
  next => exact .inr (by simp [Session.print])
  next options asked =>
    unfold runOptions
    split
    next => exact .inr (by simp [Session.refuse])
    next configuration loaded =>
      split
      next => exact .inr (by simp [Session.print])
      next working =>
        split
        next => exact .inr (by simp [Session.refuse])
        next workflow planned =>
          cases ran : workflow.run system (.start files .listening) with
          | mk result world =>
            cases result with
            | error stopped => cases stopped <;> exact .inr (by simp [runWorkflow, ran, interruptionCode])
            | ok last => exact .inl ⟨workflow, options.json, last, world, rfl, ran⟩

end CommandLine

/-- A state that a workflow can come to has errors if and only if some diagnosis on its chain is one. So the
exit code of a session, the last line of its summary and its listing tell the same of the last state, and a
session that did not come to a last state has another exit code. -/
theorem failure_views_agree (system : System) :
    (∀ state : State, state.Reached →
      (state.hasErrors = true ↔ ∃ found ∈ state.allDiagnoses, found.severity = .error)) ∧
    (∀ (workflow : Workflow) files last world,
      workflow.run system (.start files .listening) = (.ok last, world) →
        let shown := CommandLine.runWorkflow system workflow false files
        let listed := CommandLine.runWorkflow system workflow true files
        shown.code = listed.code ∧ (shown.code = 1 ↔ last.hasErrors = true) ∧
          (shown.code = 1 ↔ shown.out.getLast? ≠ some (last.stage.name ++ ": ok")) ∧
          (listed.code = 1 ↔ ∃ text ∈ listed.out, errorLine ∈ text.toList.splitOn '\n')) ∧
    ∀ words files, let session := CommandLine.run system words files
      (∃ workflow json last world, session = CommandLine.runWorkflow system workflow json files ∧
        workflow.run system (.start files .listening) = (.ok last, world)) ∨
      session.code ∈ [0, CommandLine.Session.exitUsage, CommandLine.Session.exitInterrupted,
        CommandLine.Session.exitCrashed] := by
  refine ⟨?states, ?workflows, ?sessions⟩
  case states => exact fun state reached => reached.accounted.hasErrors_iff
  case workflows =>
    intro workflow files last world ok shown listed
    have errors := (State.Reached.of_run ok).accounted.hasErrors_iff
    have code : shown.code = CommandLine.exitCode last := CommandLine.runWorkflow_code ok false
    have codeToo : listed.code = CommandLine.exitCode last := CommandLine.runWorkflow_code ok true
    have summary : shown.out.getLast? = some (CommandLine.summaryLine last) := CommandLine.runWorkflow_summary ok
    have listing : listed.out = [listing last.allDiagnoses] := CommandLine.runWorkflow_listing ok
    refine ⟨code.trans codeToo.symm, ?_, ?_, ?_⟩
    · rw [code, CommandLine.exitCode_eq_one_iff]
    · rw [code, CommandLine.exitCode_eq_one_iff, summary, Ne, Option.some_inj,
        CommandLine.summaryLine_eq_ok_iff, not_not, errors]
    · rw [codeToo, CommandLine.exitCode_eq_one_iff, listing, errors, ← errorLine_mem_listing]
      simp
  case sessions => exact fun words files => CommandLine.run_cases system words files

/-- A generator that cannot be started leaves an exception: it shows in the exit code, in the summary and in the
listing of a session. -/
theorem failed_start_shows :
    let system : System := fun _ _ => .failed .noEntry
    let target : Target := ⟨"t", "T", .hosted, none, "Main", [], [], [], "T", ["x"], "/*", "*/", none, none, none⟩
    let checker : Checker := ⟨fun _ => ⟨some "g", ["r"], [], [], []⟩, false⟩
    let workflow : Workflow := { Workflow.usual ⟨"g", [], none⟩ target with checker }
    let files : FileStore := ⟨.folder [], []⟩
    (CommandLine.runWorkflow system workflow false files).code = 1 ∧
      (∃ text ∈ (CommandLine.runWorkflow system workflow true files).out, errorLine ∈ text.toList.splitOn '\n') ∧
      ∃ last after, workflow.run system (.start files .listening) = (.ok last, after) ∧
        last.exception ≠ none ∧ (∃ found ∈ last.allDiagnoses, found.severity = .error) ∧
        (CommandLine.runWorkflow system workflow false files).out.getLast? ≠ some (last.stage.name ++ ": ok") := by
  intro system target checker workflow files
  obtain ⟨states, workflows, -⟩ := failure_views_agree system
  obtain ⟨last, after, ok⟩ := exists_of_isOk
    (by decide +kernel : (workflow.run system (.start files .listening)).1.isOk = true)
  have known : (workflow.run system (.start files .listening)).1.map (fun last =>
      (last.exception.isSome, last.hasErrors)) = .ok (true, true) := by decide +kernel
  rw [ok] at known
  obtain ⟨failed, errors⟩ := Prod.mk.inj (Except.ok.inj known)
  obtain ⟨same, flag, summary, inListing⟩ := workflows workflow files last after ok
  have code : (CommandLine.runWorkflow system workflow false files).code = 1 := flag.2 errors
  refine ⟨code, inListing.1 (same.symm.trans code), last, after, ok, ?_, ?_, summary.1 code⟩
  · exact Option.isSome_iff_ne_none.1 failed
  · exact (states last (.of_run ok)).1 errors

end GrammarFlow
