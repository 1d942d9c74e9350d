import GrammarFlow.Proofs.RepeatedMessages
import GrammarFlow.Proofs.StageCourses
import GrammarFlow.Proofs.StateLookups

/-!
Compiling a parser once more, from the state from which it was compiled before. The messages are the same, in
the same order, but those about copied actions are no longer shown in the grammar: the first attempt has taken
the marks out of the generated files, and the second finds none.
-/

namespace GrammarFlow

namespace Compilation

theorem arguments_congr {values : TemplateValues} {target : Target} {files left : FileStore}
    (same : generatedFiles target.generates left values.workingDirectory =
      generatedFiles target.generates files values.workingDirectory) (templates : List String) :
    arguments values target left templates = arguments values target files templates := by
  induction templates with
  | nil => rfl
  | cons template templates ih => simp only [arguments, same, ih]

theorem invocation_congr {request : Request} {directory : String} {files left : FileStore}
    (same : generatedFiles request.target.generates left directory =
      generatedFiles request.target.generates files directory) (compiler : Compiler) (grammar : String) :
    invocation request compiler directory grammar left =
      invocation request compiler directory grammar files := by
  unfold invocation
  dsimp only
  rw [@arguments_congr ⟨_, directory, _, grammar⟩ _ _ _ same]

theorem writeEntryPoint_run (template directory grammar : String) (files : FileStore) :
    (writeEntryPoint template directory grammar).run files =
      match files.readText template with
      | .error error => (.error (.configuration
          ("Cannot read entry template '" ++ template ++ "': " ++ error.message)), files)
      | .ok text =>
        let path := Path.join directory (fillNames grammar (Path.shownName template))
        match files.writeText path (fillNames grammar text) with
        | .error error => (.error (.io error.message), files)
        | .ok after => (.ok path, after) := by
  have asked : (get : FileWork FileStore).run files = (.ok files, files) := rfl
  unfold writeEntryPoint
  rw [FileWork.run_bind, asked]
  dsimp only
  cases files.readText template with
  | error => rfl
  | ok text =>
    dsimp only
    rw [pure_bind, FileWork.run_bind, FileWork.run_change]
    cases files.writeText (Path.join directory (fillNames grammar (Path.shownName template)))
      (fillNames grammar text) <;> rfl

/-- An entry point that cannot be put in place leaves no trace. -/
theorem entryPoint_error {request : Request} {directory grammar : String} {files after : FileStore}
    {error : StageFailure}
    (failed : (entryPoint request directory grammar).run files = (.error error, after)) : after = files := by
  unfold entryPoint at failed
  split at failed
  next => cases failed
  next template _ =>
    dsimp only at failed
    rw [map_eq_pure_bind, FileWork.run_bind, writeEntryPoint_run] at failed
    split at failed
    next path given done => cases failed
    next problem given done =>
      cases failed
      split at done
      · cases done
        rfl
      · dsimp only at done
        split at done
        · cases done
          rfl
        · cases done

def strip (request : Request) (generated : StateAt .parserGenerated) : FileWork FragmentMaps :=
  stripMarks request.target.markStyle (generated.state.checked?.getD default).fragments
    generated.generated.generatedFiles

def placeEntry (request : Request) (generated : StateAt .parserGenerated) : FileWork (Option String) :=
  entryPoint request generated.generated.directory (generated.state.checked?.getD default).grammarName

/-- What an attempt has prepared is there when it is over: the generated files are as the pass over them has
left them, and putting the entry point in place again would change nothing. -/
structure Settled (request : Request) (generated : StateAt .parserGenerated) (stripped left : FileStore) :
    Prop where
  files : ∀ path ∈ generated.generated.generatedFiles, left.readBytes path = stripped.readBytes path
  entry : ∀ entry given, (placeEntry request generated).run stripped = (.ok entry, given) →
    (placeEntry request generated).run left = (.ok entry, left) ∧
      generatedFiles request.target.generates left generated.generated.directory =
        generatedFiles request.target.generates given generated.generated.directory

/-- A second attempt and the first, from the same state. -/
structure Recompiled (maps : FragmentMaps) (directory : String) (left : FileStore) (first second : State) :
    Prop where
  artifacts : second.artifacts = first.artifacts
  exception : second.exception = first.exception
  command : second.command = first.command
  hasErrors : second.hasErrors = first.hasErrors
  diagnoses : List.Forall₂ (ShownAgain maps) first.diagnoses second.diagnoses
  inFiles : ∀ found ∈ second.diagnoses, ∀ span, found.span = some span →
    left.readText (Path.join directory span.source.name) = .ok span.source.text ∧ span.length = 0

theorem Recompiled.same {maps : FragmentMaps} {directory : String} {left : FileStore} {state : State}
    (unlocated : ∀ found ∈ state.diagnoses, found.span = none) :
    Recompiled maps directory left state state := by
  refine ⟨rfl, rfl, rfl, rfl, List.forall₂_same.2 fun _ _ => .inl rfl, ?_⟩
  intro found member span located
  rw [unlocated found member] at located
  cases located

/-- Where no marks were taken out, nothing is shown differently. -/
theorem Recompiled.diagnoses_eq {directory : String} {left : FileStore} {first second : State}
    (recompiled : Recompiled [] directory left first second) : second.diagnoses = first.diagnoses := by
  have same := recompiled.diagnoses.imp fun _ _ => ShownAgain.eq_of_nil
  rw [List.forall₂_eq_eq_eq] at same
  exact same.symm

end Compilation

theorem World.run_of_work {α : Type} {world after : World} {work : FileWork α}
    {result : Except StageFailure α} (worked : world.work work = (result, after)) :
    work.run world.files = (result, after.files) := by
  cases worked
  rfl

theorem World.work_again {α : Type} {world : World} {work : FileWork α}
    {result : Except StageFailure α} (worked : work.run world.files = (result, world.files)) :
    world.work work = (result, world) := by
  change ((work.run world.files).1, { world with files := (work.run world.files).2 }) = _
  rw [worked]

theorem Outcome.span_of_fail {outcome : Outcome} {stage : Stage} {error : StageFailure} {kind : DiagnosisKind}
    (nothing : outcome.diagnoses = []) {found : Diagnosis}
    (member : found ∈ (outcome.fail stage error kind).diagnoses) : found.span = none := by
  unfold fail push at member
  dsimp only at member
  rw [nothing, List.nil_append] at member
  rw [List.mem_singleton.1 member]
  rfl

theorem StateAt.rollback?_next {stage : Stage} (previous : StateAt stage) (artifacts : Artifacts)
    (outcome : Outcome) (follows : stage.next? = some artifacts.stage) :
    (previous.next artifacts outcome follows).state.rollback? stage = some previous.state := by
  have apart : artifacts.stage ≠ stage := by
    intro same
    rw [same] at follows
    cases stage <;> cases follows
  have earlier : (previous.next artifacts outcome follows).state.rollback? stage =
      previous.state.rollback? stage := if_neg apart
  have here := previous.state.latest?_stage
  rwa [previous.atStage, ← State.rollback?_eq, ← earlier] at here

/-- A program that shows the same on the files that it has left behind. -/
structure ToolStart.Repeats (tool : ToolStart) (system : System) : Prop where
  ran : ∀ signals status left late, system tool.invocation tool.world.files = .ran signals status left late →
    ∃ later, system tool.invocation left = .ran signals status left later
  lost : ∀ signals error left late, system tool.invocation tool.world.files = .lost signals error left late →
    ∃ later, system tool.invocation left = .lost signals error left later

section Through
variable {ignored : IgnoredLines} {stops : List Line → Bool} {signals : List Signal} {ending : RunEnd}
  {files : FileStore} {late : Bool}
  (through : (Run.ofSignals ignored stops signals ending files late).ending ≠ .cancelled)
include through

theorem files_ofSignals : (Run.ofSignals ignored stops signals ending files late).files = files := by
  unfold Run.ofSignals at through ⊢
  split at through
  · exact absurd rfl through
  · rfl

theorem ofSignals_again (later : Bool) :
    (Run.ofSignals ignored stops signals ending files later).ending =
        (Run.ofSignals ignored stops signals ending files late).ending ∧
      (Run.ofSignals ignored stops signals ending files later).lines =
        (Run.ofSignals ignored stops signals ending files late).lines ∧
      (Run.ofSignals ignored stops signals ending files later).files =
        (Run.ofSignals ignored stops signals ending files late).files := by
  unfold Run.ofSignals at through ⊢
  split at through
  · exact absurd rfl through
  · exact ⟨rfl, rfl, rfl⟩

end Through

theorem ToolStart.Repeats.run_again {tool : ToolStart} {system : System} (repeats : tool.Repeats system)
    (again : ToolStart)
    (ran : (tool.run system).ending ≠ .cancelled) (going : again.world.cancelled = false)
    (invocation : again.invocation = tool.invocation) (ignored : again.ignored = tool.ignored)
    (files : again.world.files = (tool.run system).files) :
    (again.run system).ending = (tool.run system).ending ∧ (again.run system).lines = (tool.run system).lines ∧
      (again.run system).files = (tool.run system).files := by
  have first : tool.world.cancelled = false := by
    rw [Bool.eq_false_iff]
    intro stopped
    exact ran (by simp [ToolStart.run, GrammarFlow.run, stopped])
  unfold ToolStart.run GrammarFlow.run at ran files ⊢
  rw [first, if_neg Bool.false_ne_true] at ran files
  rw [first, going, if_neg Bool.false_ne_true, if_neg Bool.false_ne_true, invocation, ignored]
  cases shown : system tool.invocation tool.world.files with
  | failed error =>
    rw [shown] at files
    dsimp only at files
    rw [files, shown]
    exact ⟨rfl, rfl, rfl⟩
  | ran signals status left late =>
    obtain ⟨later, again⟩ := repeats.ran signals status left late shown
    rw [shown] at files ran
    rw [files.trans (files_ofSignals ran), again]
    exact ofSignals_again ran later
  | lost signals error left late =>
    obtain ⟨later, again⟩ := repeats.lost signals error left late shown
    rw [shown] at files ran
    rw [files.trans (files_ofSignals ran), again]
    exact ofSignals_again ran later

namespace Compilation

/-- The compiler's lines in a reading that came to its end, one diagnosis for each. -/
theorem reading_eq {compiler : Compiler} {maps : FragmentMaps} {directory : String} {files : FileStore}
    {lines : List Line} {events : List Event}
    (read : List.Forall₂ (fun line event => Event.diagnosis <$>
      checkedDiagnose compiler.reportFormat maps directory files line.2 = .ok event) lines events) :
    events = lines.map fun line => .diagnosis (diagnose compiler.reportFormat maps directory files line.2) := by
  have same : List.Forall₂ (fun line event =>
      Event.diagnosis (diagnose compiler.reportFormat maps directory files line.2) = event) lines events :=
    read.imp fun _ _ ok => (((exact_checkedDiagnose ..).map Event.diagnosis).eq_of_ok ok).symm
  rw [← List.forall₂_map_left_iff, List.forall₂_eq_eq_eq] at same
  exact same.symm

theorem filterMap_diagnosis? (lines : List Line) (found : Line → Diagnosis) :
    (lines.map fun line => Event.diagnosis (found line)).filterMap Event.diagnosis? = lines.map found := by
  rw [List.filterMap_map, ← List.filterMap_eq_map]
  rfl

theorem next_recompiled {maps : FragmentMaps} {directory : String} {left : FileStore}
    {generated : StateAt .parserGenerated} {compiled : ParserCompiled} {first second : Outcome}
    (exception : second.exception = first.exception) (command : second.command = first.command)
    (diagnoses : List.Forall₂ (ShownAgain maps) first.diagnoses second.diagnoses)
    (inFiles : ∀ found ∈ second.diagnoses, ∀ span, found.span = some span →
      left.readText (Path.join directory span.source.name) = .ok span.source.text ∧ span.length = 0) :
    Recompiled maps directory left (generated.next (.parserCompiled compiled) first rfl).state
      (generated.next (.parserCompiled compiled) second rfl).state := by
  refine ⟨rfl, exception, command, ?_, diagnoses, inFiles⟩
  change (generated.state.hasErrors || second.hasErrors) = (generated.state.hasErrors || first.hasErrors)
  rw [Outcome.hasErrors, Outcome.hasErrors, exception, anyError_again diagnoses]

section Attempts
variable {system : System} {request : Request} {generated : StateAt .parserGenerated}
  {world again after prepared : World} {first : StateAt .parserCompiled} {compiled : ParserCompiled}
  {marks : MarkStyle} {maps : FragmentMaps} {directory : String} {paths : List String}
  {compiler : Compiler} {start : Invocation}

theorem tool_invocation : (tool compiler maps directory start prepared).invocation = start := rfl

theorem refusal_recompiled (left : FileStore) (error : FileError) :
    Recompiled maps directory left
      (generated.next (.parserCompiled compiled)
        ((tool compiler maps directory start prepared).refusal .parserCompiled error) rfl).state
      (generated.next (.parserCompiled compiled)
        ((tool compiler [] directory start again).refusal .parserCompiled error) rfl).state := by
  have alike : (tool compiler [] directory start again).refusal .parserCompiled error =
      (tool compiler maps directory start prepared).refusal .parserCompiled error := by
    unfold ToolStart.refusal
    rw [tool_invocation, tool_invocation]
  rw [alike]
  refine .same ?_
  intro found member
  exact Outcome.span_of_fail rfl member

/-- Each line of the first attempt was read, and so a second one reads it. -/
theorem reading_again {files : FileStore} {lines : List Line} {events : List Event}
    (read : List.Forall₂ (fun line event => Event.diagnosis <$>
      checkedDiagnose compiler.reportFormat maps directory files line.2 = .ok event) lines events)
    (mapped : Mapped marks directory paths files maps) :
    List.Forall₂ (fun line event => Event.diagnosis <$>
      checkedDiagnose compiler.reportFormat [] directory files line.2 = .ok event) lines
      (lines.map fun line => .diagnosis (diagnose compiler.reportFormat [] directory files line.2)) := by
  rw [List.forall₂_map_right_iff, List.forall₂_same]
  refine ((List.forall₂_and_left lines events).1 (read.imp fun line event ok => ⟨?_, ok⟩)).1
  cases first : checkedDiagnose compiler.reportFormat maps directory files line.2 with
  | error excess =>
    rw [first] at ok
    cases ok
  | ok found =>
    rw [checkedDiagnose_again mapped first]
    rfl

/-- How the lines of two compilers are told, the first one with the maps and the second one without. -/
structure Retold (maps : FragmentMaps) (directory : String) (left : FileStore) (first second : List Diagnosis) :
    Prop where
  shown : List.Forall₂ (ShownAgain maps) first second
  inFiles : ∀ found ∈ second, ∀ span, found.span = some span →
    left.readText (Path.join directory span.source.name) = .ok span.source.text ∧ span.length = 0

theorem retold {files : FileStore} (mapped : Mapped marks directory paths files maps) (lines : List Line) :
    Retold maps directory files
      (lines.map fun line => diagnose compiler.reportFormat maps directory files line.2)
      (lines.map fun line => diagnose compiler.reportFormat [] directory files line.2) := by
  constructor
  · rw [List.forall₂_map_left_iff, List.forall₂_map_right_iff, List.forall₂_same]
    exact fun line _ => diagnose_again mapped compiler.reportFormat line.2
  · intro found member span located
    obtain ⟨line, -, rfl⟩ := List.mem_map.1 member
    exact diagnose_inFile located

theorem exitDiagnoses_again {reported reportedAgain : List Diagnosis}
    (lines : List.Forall₂ (ShownAgain maps) reported reportedAgain) (stage : Stage) (program : String)
    (status : ExitStatus) :
    exitDiagnoses stage program status reportedAgain = exitDiagnoses stage program status reported := by
  rw [exitDiagnoses, exitDiagnoses, anyError_again lines]

theorem span_of_exitDiagnoses {stage : Stage} {program : String} {status : ExitStatus}
    {reported : List Diagnosis} {found : Diagnosis}
    (member : found ∈ exitDiagnoses stage program status reported) : found.span = none := by
  unfold exitDiagnoses at member
  split at member
  · cases member
  · rw [List.mem_singleton.1 member]
    rfl

theorem outcome_recompiled {left : FileStore} {status : ExitStatus}
    (reported : Retold maps directory left ((tool compiler maps directory start prepared).reported system)
      ((tool compiler [] directory start again).reported system)) :
    Recompiled maps directory left
      (generated.next (.parserCompiled compiled)
        ((tool compiler maps directory start prepared).outcome system .parserCompiled status) rfl).state
      (generated.next (.parserCompiled compiled)
        ((tool compiler [] directory start again).outcome system .parserCompiled status) rfl).state := by
  have exit := exitDiagnoses_again reported.shown .parserCompiled start.program status
  unfold ToolStart.outcome
  rw [tool_invocation, tool_invocation, exit]
  refine next_recompiled rfl rfl ?diagnoses ?inFiles
  case diagnoses =>
    refine List.rel_append reported.shown ?_
    rw [List.forall₂_same]
    exact fun _ _ => .inl rfl
  case inFiles =>
    intro found member span located
    obtain line | added := List.mem_append.1 member
    · exact reported.inFiles found line span located
    · rw [span_of_exitDiagnoses added] at located
      cases located

theorem loss_recompiled {left : FileStore} (error : FileError)
    (reported : Retold maps directory left ((tool compiler maps directory start prepared).reported system)
      ((tool compiler [] directory start again).reported system)) :
    Recompiled maps directory left
      (generated.next (.parserCompiled compiled)
        ((tool compiler maps directory start prepared).loss system .parserCompiled error) rfl).state
      (generated.next (.parserCompiled compiled)
        ((tool compiler [] directory start again).loss system .parserCompiled error) rfl).state := by
  unfold ToolStart.loss
  rw [tool_invocation, tool_invocation]
  refine next_recompiled rfl rfl (.cons (.inl rfl) reported.shown) ?_
  intro found member span located
  obtain rfl | line := List.mem_cons.1 member
  · cases located
  · exact reported.inFiles found line span located

/-- The compiler of a second attempt, on what that of the first has left. -/
theorem tool_recompiled {ran : ToolRun}
    (executed : runProgram system .parserCompiled compiler.ignoredLines start
      (fun files _ line => .diagnosis <$> checkedDiagnose compiler.reportFormat maps directory files line) prepared =
        (.ok ran, after))
    (repeats : (tool compiler maps directory start prepared).Repeats system)
    (mapped : Mapped marks directory paths after.files maps)
    (going : again.cancelled = false) (same : again.files = after.files) :
    ∃ ranAgain later, runProgram system .parserCompiled compiler.ignoredLines start
        (fun files _ line => .diagnosis <$> checkedDiagnose compiler.reportFormat [] directory files line) again =
          (.ok ranAgain, later) ∧
      later.files = after.files ∧
      Recompiled maps directory after.files
        (generated.next (.parserCompiled compiled) ran.progress.outcome rfl).state
        (generated.next (.parserCompiled compiled) ranAgain.progress.outcome rfl).state := by
  obtain ⟨-, left, -, read, ending⟩ := (tool compiler maps directory start prepared).runProgram_ok executed
  have notCancelled : ((tool compiler maps directory start prepared).run system).ending ≠ .cancelled := by
    obtain ⟨-, ⟨_, ended, -⟩ | ⟨_, ended, -⟩⟩ | ⟨_, ended, -⟩ := ending <;> simp [ended]
  obtain ⟨sameEnding, sameLines, sameFiles⟩ := repeats.run_again
    (tool compiler [] directory start again) notCancelled going rfl rfl (same.trans left)
  rw [left] at mapped
  have readAgain : (tool compiler [] directory start again).reading system =
      (((tool compiler maps directory start prepared).run system).lines.map fun line => .diagnosis
        (diagnose compiler.reportFormat [] directory
          ((tool compiler maps directory start prepared).run system).files line.2), none) := by
    rw [ToolStart.reading, sameLines, sameFiles]
    exact readEvents_eq_none_iff.2 (reading_again read mapped)
  rw [← sameEnding] at notCancelled
  obtain ⟨ranAgain, later, executedAgain⟩ :=
    (tool compiler [] directory start again).runProgram_going .parserCompiled notCancelled
      (congrArg Prod.snd readAgain)
  obtain ⟨-, leftAgain, -, -, endingAgain⟩ :=
    (tool compiler [] directory start again).runProgram_ok executedAgain
  refine ⟨ranAgain, later, executedAgain, leftAgain.trans (sameFiles.trans left.symm), ?_⟩
  rw [left]
  rw [sameEnding] at endingAgain
  have reported : Retold maps directory ((tool compiler maps directory start prepared).run system).files
      ((tool compiler maps directory start prepared).reported system)
      ((tool compiler [] directory start again).reported system) := by
    rw [ToolStart.reported, ToolStart.reported, reading_eq read, readAgain, filterMap_diagnosis?,
      filterMap_diagnosis?]
    exact retold mapped _
  obtain ⟨-, ⟨error, ended, outcome⟩ | ⟨error, ended, outcome⟩⟩ | ⟨status, ended, -, outcome⟩ := ending
  all_goals
    rw [ended] at endingAgain
    rw [outcome]
  · obtain ⟨-, ⟨_, ⟨⟩, outcomeAgain⟩ | ⟨_, ⟨⟩, -⟩⟩ | ⟨_, ⟨⟩, -⟩ := endingAgain
    rw [outcomeAgain]
    exact refusal_recompiled _ error
  · obtain ⟨-, ⟨_, ⟨⟩, -⟩ | ⟨_, ⟨⟩, outcomeAgain⟩⟩ | ⟨_, ⟨⟩, -⟩ := endingAgain
    rw [outcomeAgain]
    exact loss_recompiled error reported
  · obtain ⟨-, ⟨_, ⟨⟩, -⟩ | ⟨_, ⟨⟩, -⟩⟩ | ⟨_, ⟨⟩, -, outcomeAgain⟩ := endingAgain
    rw [outcomeAgain]
    exact outcome_recompiled reported

theorem strip_again
    (clean : ∀ path ∈ generated.generated.generatedFiles, ∀ text, world.files.readText path = .ok text →
      StripsClean request.target.markStyle (generated.state.checked?.getD default).fragments text)
    (settled : Settled request generated ((strip request generated).run world.files).2 again.files) :
    again.work (strip request generated) =
      (((strip request generated).run world.files).1.map fun _ => [], again) := by
  apply World.work_again
  exact stripMarks_again clean rfl fun path member => FileStore.readText_congr (settled.files path member)

theorem run_recompiled (ok : run system request generated world = (.ok first, after))
    (placed : ∀ path ∈ generated.generated.generatedFiles,
      path = Path.join generated.generated.directory (Path.shownName path))
    (clean : ∀ path ∈ generated.generated.generatedFiles, ∀ text, world.files.readText path = .ok text →
      StripsClean request.target.markStyle (generated.state.checked?.getD default).fragments text)
    (settled : Settled request generated ((strip request generated).run world.files).2 after.files)
    (repeats : ∀ start ∈ tool? request generated world, start.Repeats system)
    (going : again.cancelled = false) (same : again.files = after.files) :
    ∃ second later, run system request generated again = (.ok second, later) ∧
      later.files = after.files ∧
      Recompiled (((strip request generated).run world.files).1.toOption.getD [])
        generated.generated.directory after.files first.state second.state := by
  have stripping : again.work (stripMarks request.target.markStyle
      (generated.state.checked?.getD default).fragments generated.generated.generatedFiles) = _ :=
    strip_again clean (same ▸ settled)
  unfold run at ok ⊢
  rw [going, if_neg Bool.false_ne_true]
  dsimp only at ok ⊢
  rw [stripping]
  split at ok
  · cases ok
  · split at ok
    next error prepared stripped =>
      have failed : (strip request generated).run world.files = _ := World.run_of_work stripped
      cases ok
      rw [failed]
      exact ⟨_, _, rfl, same, .same fun _ => Outcome.span_of_fail rfl⟩
    next maps marksOut stripped =>
      have passed : (strip request generated).run world.files = _ := World.run_of_work stripped
      rw [passed] at settled ⊢
      dsimp only [Except.map, Except.toOption, Option.getD_some] at settled ⊢
      split at ok
      next error prepared placing =>
        have failed := World.run_of_work placing
        have unchanged := entryPoint_error failed
        cases ok
        rw [unchanged, ← same.trans unchanged] at failed
        rw [World.work_again failed]
        exact ⟨_, _, rfl, same, .same fun _ => Outcome.span_of_fail rfl⟩
      next entry prepared placing =>
        obtain ⟨placedAgain, listing⟩ := settled.entry entry _ (World.run_of_work placing)
        rw [← same] at placedAgain listing
        have placingAgain : again.work (entryPoint request generated.generated.directory
            (generated.state.checked?.getD default).grammarName) = _ := World.work_again placedAgain
        rw [placingAgain]
        dsimp only
        cases compiling : request.target.compiler with
        | none =>
          rw [compiling] at ok
          cases ok
          exact ⟨_, _, rfl, same, .same fun _ member => absurd member List.not_mem_nil⟩
        | some compiler =>
          rw [compiling] at ok
          dsimp only at ok ⊢
          rw [invocation_congr listing]
          split at ok
          next error looked =>
            cases ok
            exact ⟨_, _, rfl, same, .same fun _ => Outcome.span_of_fail rfl⟩
          next start looked =>
            split at ok
            next => cases ok
            next ran left executed =>
              cases ok
              have ready : tool? request generated world =
                  some (tool compiler maps generated.generated.directory start prepared) := by
                rw [tool?_of_prepared stripped placing, compiling, Option.bind_some, looked]
                rfl
              have mapped := (stripMarks_mapped placed clean passed).congr fun path listed =>
                FileStore.readText_congr (settled.files path listed)
              obtain ⟨ranAgain, later, executedAgain, kept, recompiled⟩ :=
                tool_recompiled executed (repeats _ ready) mapped going same
              refine ⟨_, later, ?_, kept, recompiled⟩
              rw [executedAgain]

theorem run_next (ok : run system request generated world = (.ok first, after)) :
    ∃ compiled outcome, first = generated.next (.parserCompiled compiled) outcome rfl := by
  unfold run at ok
  dsimp only at ok
  repeat' split at ok
  all_goals cases ok
  all_goals exact ⟨_, _, rfl⟩

/-- A parser is compiled once more from the state that it was compiled from. The messages are the same in the
same order. One that the first attempt has shown in the grammar is shown in the generated file by the second. -/
theorem compiled_again (ok : run system request generated world = (.ok first, after))
    (placed : ∀ path ∈ generated.generated.generatedFiles,
      path = Path.join generated.generated.directory (Path.shownName path))
    (clean : ∀ path ∈ generated.generated.generatedFiles, ∀ text, world.files.readText path = .ok text →
      StripsClean request.target.markStyle (generated.state.checked?.getD default).fragments text)
    (settled : Settled request generated ((strip request generated).run world.files).2 after.files)
    (repeats : ∀ start ∈ tool? request generated world, start.Repeats system)
    (going : again.cancelled = false) (same : again.files = after.files) :
    let maps := ((strip request generated).run world.files).1.toOption.getD []
    first.state.rollback? .parserGenerated = some generated.state ∧
    ∃ second later, run system request generated again = (.ok second, later) ∧
      later.files = after.files ∧
      Recompiled maps generated.generated.directory after.files first.state second.state ∧
      (maps = [] → second.state.diagnoses = first.state.diagnoses) := by
  intro maps
  obtain ⟨compiled, outcome, rfl⟩ := run_next ok
  obtain ⟨second, later, okAgain, kept, recompiled⟩ :=
    run_recompiled ok placed clean settled repeats going same
  refine ⟨generated.rollback?_next .., second, later, okAgain, kept, recompiled, ?_⟩
  intro none
  have unmarked : Recompiled maps _ _ _ _ := recompiled
  rw [none] at unmarked
  exact unmarked.diagnoses_eq

end Attempts

/-- One message is about the copied action, one about the rest of its line, and one is about no place. -/
theorem later_action_recompiled :
    let grammar : Source := ⟨"E.g4", "e : \x7bgo();\x7d | \x7bon();\x7d ;"⟩
    let form : Pattern := .sequence [.group "file" (.plus false (.one .notLineFeed)), .text ":",
      .group "line" .digits, .text ":", .group "column" .digits, .text ": ",
      .group "message" (.plus true (.one .notLineFeed))]
    let target : Target := ⟨"t", "T", .hosted, none, "E", [], [], [], "T", ["gen"], "/*", "*/", none, none,
      some ⟨"cc", [filesPlaceholder], ⟨"", form⟩, 1, []⟩⟩
    let request : Request := ⟨target, default⟩
    let actions : List Span := [⟨grammar, 5, 5, by decide⟩, ⟨grammar, 15, 5, by decide⟩]
    let input : StateAt .input := ⟨.input ⟨"E", [grammar], none⟩, rfl⟩
    let checked := input.next (.grammarChecked ⟨"E", ["e"], [], actions⟩) .empty rfl
    let generated := checked.next (.parserGenerated ⟨"t", "out", ["out/E.gen"], []⟩) .empty rfl
    let text := "/*#fragment_001*/on();/*fragment_001#*/ x\n"
    let world := World.start
      ⟨.folder [("out", .folder [("E.gen", .file (Text.Utf8.encode text.toList) false)])], []⟩ .absent
    let system : System := fun _ files => .ran [.line .err "E.gen:1:1: on is not declared",
      .line .out "1 file", .line .err "E.gen:1:7: x is not declared"] (.exited 1) files false
    let maps := ((strip request generated).run world.files).1.toOption.getD []
    ∃ first second after later, run system request generated world = (.ok first, after) ∧
      run system request generated after = (.ok second, later) ∧
      first.state.rollback? .parserGenerated = some generated.state ∧
      Recompiled maps "out" after.files first.state second.state := by
  intro grammar form target request actions input checked generated text world system maps
  obtain ⟨first, after, ok⟩ := exists_of_isOk (by decide +kernel :
    (run system request generated world).1.isOk = true)
  have there : after = (run system request generated world).2 := by rw [ok]
  have clean : ∀ path ∈ generated.generated.generatedFiles, ∀ held, world.files.readText path = .ok held →
      StripsClean target.markStyle (generated.state.checked?.getD default).fragments held := by
    intro path listed held read
    have known : world.files.readText "out/E.gen" = .ok text := by decide +kernel
    rw [List.mem_singleton.1 listed, known] at read
    cases read
    decide +kernel
  have settled : Settled request generated ((strip request generated).run world.files).2 after.files := by
    rw [there]
    constructor
    · decide +kernel
    · intro entry given placing
      cases placing
      exact ⟨rfl, by decide +kernel⟩
  have repeats : ∀ start ∈ tool? request generated world, start.Repeats system := by
    intro start known
    constructor
    · intro signals status left late shown
      cases shown
      exact ⟨false, rfl⟩
    · nofun
  obtain ⟨back, second, later, okAgain, -, recompiled, -⟩ :=
    compiled_again ok (by decide +kernel) clean settled repeats (by rw [there]; decide +kernel) rfl
  exact ⟨first, second, after, later, ok, okAgain, back, recompiled⟩

/-- The first attempt shows an undeclared name in the action of the grammar, the second in the generated
file. -/
theorem message_leaves_grammar :
    let grammar : Source := ⟨"E.g4", "e : \x7bgo();\x7d ;"⟩
    let form : Pattern := .sequence [.group "file" (.plus false (.one .notLineFeed)), .text ":",
      .group "line" .digits, .text ":", .group "column" .digits, .text ": ",
      .group "message" (.plus true (.one .notLineFeed))]
    let target : Target := ⟨"t", "T", .hosted, none, "E", [], [], [], "T", ["gen"], "/*", "*/", none, none,
      some ⟨"cc", [filesPlaceholder], ⟨"", form⟩, 1, []⟩⟩
    let input : StateAt .input := ⟨.input ⟨"E", [grammar], none⟩, rfl⟩
    let checked := input.next (.grammarChecked ⟨"E", ["e"], [], [⟨grammar, 5, 5, by decide⟩]⟩) .empty rfl
    let generated := checked.next (.parserGenerated ⟨"t", "out", ["out/E.gen"], []⟩) .empty rfl
    let marked := Text.Utf8.encode "/*#fragment_000*/go();/*fragment_000#*/\n".toList
    let world := World.start ⟨.folder [("out", .folder [("E.gen", .file marked false)])], []⟩ .absent
    let system : System := fun _ files =>
      .ran [.line .err "E.gen:1:1: go is not declared"] (.exited 1) files false
    let first := run system ⟨target, default⟩ generated world
    let second := run system ⟨target, default⟩ generated first.2
    first.1.toOption.bind (·.state.rollback? .parserGenerated) = some generated.state ∧
      first.1.toOption.map (·.state.diagnoses) =
        some [.located (grammar.clampedSpan 5 5) "go is not declared" .error .parserCompiled] ∧
      second.1.toOption.map (·.state.diagnoses) = some [.located (Source.clampedSpan ⟨"E.gen", "go();\n"⟩ 0 0)
        "go is not declared" .error .parserCompiled] := by
  decide +kernel

end Compilation

end GrammarFlow
