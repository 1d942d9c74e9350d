import GrammarFlow.Proofs.BoundedReports
import GrammarFlow.Proofs.ParserRun

/-!
The ways in which a stage with a tool can go. Its configuration is refused before anything is started, or it
needs no tool, or its tool is started and what comes of that is recorded. The three stages that have tools
differ in how they prepare the start and in how they read a line, and in nothing else that is recorded.
-/

namespace GrammarFlow

structure ToolStart where
  invocation : Invocation
  ignored : IgnoredLines
  interpret : FileStore → Stream → String → Text.Checked Event
  world : World
  /-- A line is a report of the tool or stands for itself. No other diagnosis is made from one. -/
  reports : ∀ files stream line event found, interpret files stream line = .ok event →
    event.diagnosis? = some found → found.kind = .childProcessDiagnostic ∨ found.kind = .unparsedOutputLine

namespace ToolStart
variable (tool : ToolStart) (system : System)

def run : Run :=
  GrammarFlow.run system tool.ignored (fun _ => false) tool.world.cancelled tool.invocation
    tool.world.files

def reading : List Event × Option Text.Excess :=
  readEvents (tool.interpret (tool.run system).files) (tool.run system).lines

def reported : List Diagnosis := (tool.reading system).1.filterMap Event.diagnosis?

def outcome (stage : Stage) (status : ExitStatus) : Outcome where
  diagnoses := tool.reported system ++
    exitDiagnoses stage tool.invocation.program status (tool.reported system)
  exception := none
  command := some tool.invocation.commandLine

def refusal (stage : Stage) (error : FileError) : Outcome :=
  Outcome.fail ⟨[], none, some tool.invocation.commandLine⟩ stage
    (.processSpawn tool.invocation.program error.message) .processSpawnFailure

def loss (stage : Stage) (error : FileError) : Outcome where
  diagnoses := { Diagnosis.error (StageFailure.io error.message).message stage with kind := .abnormalExit } ::
    tool.reported system
  exception := some (.io error.message)
  command := some tool.invocation.commandLine

end ToolStart

theorem World.notifyAll_kept (world : World) (events : List Event) :
    (world.notifyAll events).launched = world.launched ∧ (world.notifyAll events).files = world.files := by
  induction events generalizing world with
  | nil => exact ⟨rfl, rfl⟩
  | cons event events ih => exact ih (world.notify event)

theorem Progress.noteExit_kept (progress : Progress) (stage : Stage) (program : String)
    (status : ExitStatus) :
    (progress.noteExit stage program status).world.launched = progress.world.launched ∧
      (progress.noteExit stage program status).world.files = progress.world.files := by
  unfold noteExit
  split <;> exact ⟨rfl, rfl⟩

theorem World.work_launched {α : Type} {world after : World} {work : FileWork α}
    {result : Except StageFailure α} (worked : world.work work = (result, after)) :
    after.launched = world.launched := by
  cases worked
  rfl

/-- How a stage comes to its outcome. The tool is the one that it has ready, if any. -/
inductive Course (system : System) (stage : Stage) (before after : World) :
    Option ToolStart → Outcome → Prop where
  | refused {message : String} {exception : Option StageFailure}
      (unlaunched : after.launched = before.launched) :
      Course system stage before after none
        ⟨[{ Diagnosis.error message stage with kind := .configurationError }], exception, none⟩
  | idle (unlaunched : after.launched = before.launched) :
      Course system stage before after none .empty
  | notStarted {tool : ToolStart} {error : FileError}
      (ended : (tool.run system).ending = .notStarted error)
      (launched : after.launched = before.launched ++ [tool.invocation]) :
      Course system stage before after (some tool) (tool.refusal stage error)
  | lost {tool : ToolStart} {error : FileError} (ended : (tool.run system).ending = .lost error)
      (launched : after.launched = before.launched ++ [tool.invocation]) :
      Course system stage before after (some tool) (tool.loss system stage error)
  | finished {tool : ToolStart} {status : ExitStatus}
      (ended : (tool.run system).ending = .finished status)
      (launched : after.launched = before.launched ++ [tool.invocation]) :
      Course system stage before after (some tool) (tool.outcome system stage status)
  /-- The tool has ended, but its files cannot be looked up. -/
  | uncollected {tool : ToolStart} {status : ExitStatus} (error : FileError)
      (ended : (tool.run system).ending = .finished status)
      (launched : after.launched = before.launched ++ [tool.invocation]) :
      Course system stage before after (some tool)
        ((tool.outcome system stage status).fail stage (.io error.message) .abnormalExit)

theorem exists_of_isOk {ε α β : Type} {result : Except ε α × β} (ok : result.1.isOk = true) :
    ∃ value rest, result = (.ok value, rest) := by
  obtain ⟨error | value, rest⟩ := result
  · cases ok
  · exact ⟨value, rest, rfl⟩

/-- What is known of a tool that a stage has got to an end: all of its lines were read, and it could not be started,
could not be waited for or has ended. -/
structure ToolStart.Ran (tool : ToolStart) (system : System) (stage : Stage) (ran : ToolRun)
    (after : World) : Prop where
  launched : after.launched = tool.world.launched ++ [tool.invocation]
  files : after.files = (tool.run system).files
  world : ran.progress.world = after
  read : List.Forall₂ (fun line event => tool.interpret (tool.run system).files line.1 line.2 = .ok event)
    (tool.run system).lines (tool.reading system).1
  ending : (ran.status = none ∧
      ((∃ error, (tool.run system).ending = .notStarted error ∧ ran.progress.outcome = tool.refusal stage error) ∨
        ∃ error, (tool.run system).ending = .lost error ∧ ran.progress.outcome = tool.loss system stage error)) ∨
    ∃ status, (tool.run system).ending = .finished status ∧ ran.status = some status ∧
      ran.progress.outcome = tool.outcome system stage status

theorem ToolStart.runProgram_ok (tool : ToolStart) {system : System} {stage : Stage} {ran : ToolRun}
    {after : World}
    (ok : runProgram system stage tool.ignored tool.invocation tool.interpret tool.world = (.ok ran, after)) :
    tool.Ran system stage ran after := by
  have going : tool.world.cancelled = false := by
    rw [Bool.eq_false_iff]
    intro stopped
    simp [runProgram, GrammarFlow.run, stopped, readEvents] at ok
  have same : GrammarFlow.run system tool.ignored (fun _ => false) tool.world.cancelled tool.invocation
      tool.world.files = tool.run system := rfl
  have reading : readEvents (tool.interpret (tool.run system).files) (tool.run system).lines =
      ((tool.reading system).1, (tool.reading system).2) := rfl
  unfold runProgram at ok
  dsimp only at ok
  rw [same, reading] at ok
  simp only [going, Bool.false_eq_true, if_false] at ok
  cases whole : (tool.reading system).2 with
  | some excess =>
    rw [whole] at ok
    cases ok
  | none =>
    rw [whole] at ok reading
    have read := readEvents_eq_none_iff.1 reading
    cases ending : (tool.run system).ending with
    | cancelled =>
      rw [ending] at ok
      cases ok
    | notStarted error =>
      rw [ending] at ok
      cases ok
      exact ⟨(World.notifyAll_kept _ _).1, (World.notifyAll_kept _ _).2, rfl, read,
        .inl ⟨rfl, .inl ⟨error, ending, rfl⟩⟩⟩
    | lost error =>
      rw [ending] at ok
      cases ok
      exact ⟨(World.notifyAll_kept _ _).1, (World.notifyAll_kept _ _).2, rfl, read,
        .inl ⟨rfl, .inr ⟨error, ending, rfl⟩⟩⟩
    | finished status =>
      rw [ending] at ok
      cases ok
      refine ⟨?_, ?_, rfl, read, .inr ⟨status, ending, rfl, ?_⟩⟩
      · exact (Progress.noteExit_kept ..).1.trans (World.notifyAll_kept _ _).1
      · exact (Progress.noteExit_kept ..).2.trans (World.notifyAll_kept _ _).2
      · exact Progress.noteExit_outcome ..

/-- A program that is not cancelled, and whose lines can all be read, gives the stage something to record. -/
theorem ToolStart.runProgram_going (tool : ToolStart) {system : System} (stage : Stage)
    (going : (tool.run system).ending ≠ .cancelled) (whole : (tool.reading system).2 = none) :
    ∃ ran after, runProgram system stage tool.ignored tool.invocation tool.interpret tool.world =
      (.ok ran, after) := by
  have reading : readEvents (tool.interpret (tool.run system).files) (tool.run system).lines =
      ((tool.reading system).1, none) := by rw [← whole]; rfl
  unfold ToolStart.run at reading going
  simp only [runProgram, reading]
  split
  next => contradiction
  next ended => exact absurd ended going
  next => exact ⟨_, _, rfl⟩
  next => exact ⟨_, _, rfl⟩
  next => exact ⟨_, _, rfl⟩

/-- A stage has made a state in one of these ways, and that decides whether the state has errors. -/
def Follows (system : System) (stage : Stage) (before after : World) (tool : Option ToolStart)
    (state : State) : Prop :=
  Course system stage before after tool state.outcome ∧ state.hasErrors = state.outcome.hasErrors

theorem Course.follows {system : System} {stage earlier : Stage} {before after : World}
    {tool : Option ToolStart} {outcome : Outcome} (course : Course system stage before after tool outcome)
    {previous : StateAt earlier} (sound : previous.state.hasErrors = false) (artifacts : Artifacts)
    (next : earlier.next? = some artifacts.stage) :
    Follows system stage before after tool (previous.next artifacts outcome next).state := by
  refine ⟨course, ?_⟩
  change (previous.state.hasErrors || outcome.hasErrors) = outcome.hasErrors
  rw [sound, Bool.false_or]

/-- The course of a stage that does no more than to run its tool. -/
theorem ToolStart.course (tool : ToolStart) {system : System} {stage : Stage} {ran : ToolRun}
    {before after : World}
    (ok : runProgram system stage tool.ignored tool.invocation tool.interpret tool.world = (.ok ran, after))
    (prepared : tool.world.launched = before.launched) :
    Course system stage before after (some tool) ran.progress.outcome := by
  obtain ⟨launched, -, -, -, ⟨-, ⟨error, ended, outcome⟩ | ⟨error, ended, outcome⟩⟩ | ⟨status, ended, -, outcome⟩⟩ :=
    tool.runProgram_ok ok
  · rw [outcome]
    exact .notStarted ended (prepared ▸ launched)
  · rw [outcome]
    exact .lost ended (prepared ▸ launched)
  · rw [outcome]
    exact .finished ended (prepared ▸ launched)

namespace Generation

theorem diagnose_kind (marked : List MarkedSource) (line : String) :
    (diagnose marked line).kind = .childProcessDiagnostic ∨
      (diagnose marked line).kind = .unparsedOutputLine := by
  unfold diagnose
  split
  · exact .inr rfl
  · unfold diagnosis
    split <;> exact .inl rfl

theorem checkedDiagnose_kind (marked : List MarkedSource) (line : String) (event : Event) (found : Diagnosis)
    (read : Event.diagnosis <$> checkedDiagnose marked line = .ok event) (told : event.diagnosis? = some found) :
    found.kind = .childProcessDiagnostic ∨ found.kind = .unparsedOutputLine := by
  obtain rfl := ((exact_checkedDiagnose marked line).map Event.diagnosis).eq_of_ok read
  cases told
  exact diagnose_kind marked line

def tool (request : Request) (marked : List MarkedSource) (invocation : Invocation) (world : World) :
    ToolStart where
  invocation := invocation
  ignored := request.generator.ignoredLines
  interpret _ _ line := .diagnosis <$> checkedDiagnose marked line
  world := world
  reports _ _ := checkedDiagnose_kind marked

def tool? (request : Request) (checked : StateAt .grammarChecked) (world : World) : Option ToolStart :=
  let directory := request.workspace.workingDirectory checked.checked.grammarName request.target.id
  match world.work (plan request directory checked) with
  | (.error _, _) => none
  | (.ok (marked, invocation), world) => some (tool request marked invocation world)

theorem collect_course {system : System} {before : World} {tool : ToolStart} {status : ExitStatus}
    {progress : Progress} (ended : (tool.run system).ending = .finished status)
    (launched : progress.world.launched = before.launched ++ [tool.invocation])
    (recorded : progress.outcome = tool.outcome system .parserGenerated status) (target : Target)
    (directory : String) :
    let collected := (collect target directory progress).2
    Course system .parserGenerated before collected.world (some tool) collected.outcome := by
  unfold collect
  split
  next =>
    dsimp only
    rw [recorded]
    exact .finished ended launched
  next error _ =>
    dsimp only [Progress.fail]
    rw [recorded]
    exact .uncollected error ended launched

theorem run_follows {system : System} {request : Request} {checked : StateAt .grammarChecked}
    {next : StateAt .parserGenerated} {world after : World} (sound : checked.state.hasErrors = false)
    (ok : run system request checked world = (.ok next, after)) :
    Follows system .parserGenerated world after (tool? request checked world) next.state := by
  unfold run at ok
  split at ok
  · cases ok
  · dsimp only at ok
    split at ok
    next error prepared worked =>
      have unready : tool? request checked world = none := by
        unfold tool?
        dsimp only
        rw [worked]
      cases ok
      rw [unready]
      exact (Course.refused (World.work_launched worked)).follows sound _ _
    next marked invocation prepared worked =>
      have ready : tool? request checked world = some (tool request marked invocation prepared) := by
        unfold tool?
        dsimp only
        rw [worked]
      rw [ready]
      split at ok
      next => cases ok
      next ran left executed =>
        have prior := World.work_launched worked
        obtain ⟨launched, -, same, -, ⟨unended, -⟩ | ⟨status, ended, known, outcome⟩⟩ :=
          (tool request marked invocation prepared).runProgram_ok executed
        · rw [unended] at ok
          cases ok
          exact ((tool request marked invocation prepared).course executed prior).follows sound _ _
        · rw [known] at ok
          cases ok
          exact (collect_course ended (same ▸ prior ▸ launched) outcome ..).follows sound _ _

end Generation

namespace Compilation

theorem diagnose_kind (format : ReportFormat) (maps : FragmentMaps) (directory : String)
    (files : FileStore) (line : String) :
    (diagnose format maps directory files line).kind = .childProcessDiagnostic ∨
      (diagnose format maps directory files line).kind = .unparsedOutputLine := by
  unfold diagnose
  split
  · exact .inr rfl
  · unfold diagnosis
    split <;> exact .inl rfl

theorem checkedDiagnose_kind (format : ReportFormat) (maps : FragmentMaps) (directory : String) (files : FileStore)
    (line : String) (event : Event) (found : Diagnosis)
    (read : Event.diagnosis <$> checkedDiagnose format maps directory files line = .ok event)
    (told : event.diagnosis? = some found) :
    found.kind = .childProcessDiagnostic ∨ found.kind = .unparsedOutputLine := by
  obtain rfl := ((exact_checkedDiagnose format maps directory files line).map Event.diagnosis).eq_of_ok read
  cases told
  exact diagnose_kind format maps directory files line

def tool (compiler : Compiler) (maps : FragmentMaps) (directory : String) (invocation : Invocation)
    (world : World) : ToolStart where
  invocation := invocation
  ignored := compiler.ignoredLines
  interpret files _ line := .diagnosis <$> checkedDiagnose compiler.reportFormat maps directory files line
  world := world
  reports files _ := checkedDiagnose_kind compiler.reportFormat maps directory files

def tool? (request : Request) (generated : StateAt .parserGenerated) (world : World) : Option ToolStart :=
  let directory := generated.generated.directory
  let checked := generated.state.checked?.getD default
  match world.work (stripMarks request.target.markStyle checked.fragments
      generated.generated.generatedFiles) with
  | (.error _, _) => none
  | (.ok maps, world) =>
    match world.work (entryPoint request directory checked.grammarName), request.target.compiler with
    | (.ok _, world), some compiler =>
      match invocation request compiler directory checked.grammarName world.files with
      | .error _ => none
      | .ok invocation => some (tool compiler maps directory invocation world)
    | _, _ => none

section Preparation
variable {request : Request} {generated : StateAt .parserGenerated} {world marksOut prepared : World}
  {maps : FragmentMaps} {entry : Option String} {compiler : Compiler} {start : Invocation}

theorem tool?_of_stripMarks {error : StageFailure}
    (stripped : world.work (stripMarks request.target.markStyle
      (generated.state.checked?.getD default).fragments generated.generated.generatedFiles) =
        (.error error, marksOut)) :
    tool? request generated world = none := by
  unfold tool?
  dsimp only
  rw [stripped]

theorem tool?_of_entryPoint {error : StageFailure}
    (stripped : world.work (stripMarks request.target.markStyle
      (generated.state.checked?.getD default).fragments generated.generated.generatedFiles) = (.ok maps, marksOut))
    (placed : marksOut.work (entryPoint request generated.generated.directory
      (generated.state.checked?.getD default).grammarName) = (.error error, prepared)) :
    tool? request generated world = none := by
  unfold tool?
  dsimp only
  rw [stripped]
  dsimp only
  rw [placed]

/-- Where the files are prepared, the start depends only on the compiler that the target has. -/
theorem tool?_of_prepared
    (stripped : world.work (stripMarks request.target.markStyle
      (generated.state.checked?.getD default).fragments generated.generated.generatedFiles) = (.ok maps, marksOut))
    (placed : marksOut.work (entryPoint request generated.generated.directory
      (generated.state.checked?.getD default).grammarName) = (.ok entry, prepared)) :
    tool? request generated world = request.target.compiler.bind fun compiler =>
      ((invocation request compiler generated.generated.directory
        (generated.state.checked?.getD default).grammarName prepared.files).toOption).map fun start =>
          tool compiler maps generated.generated.directory start prepared := by
  unfold tool?
  dsimp only
  rw [stripped]
  dsimp only
  rw [placed]
  cases request.target.compiler with
  | none => rfl
  | some compiler =>
    dsimp only [Option.bind_some]
    cases invocation request compiler generated.generated.directory
      (generated.state.checked?.getD default).grammarName prepared.files <;> rfl

theorem run_follows {system : System} {next : StateAt .parserCompiled} {after : World}
    (sound : generated.state.hasErrors = false) (ok : run system request generated world = (.ok next, after)) :
    Follows system .parserCompiled world after (tool? request generated world) next.state := by
  unfold run at ok
  split at ok
  · cases ok
  · dsimp only at ok
    split at ok
    next error marksOut stripped =>
      rw [tool?_of_stripMarks stripped]
      cases ok
      exact (Course.refused (World.work_launched stripped)).follows sound _ _
    next maps marksOut stripped =>
      have prior := World.work_launched stripped
      split at ok
      next error prepared placed =>
        rw [tool?_of_entryPoint stripped placed]
        cases ok
        exact (Course.refused ((World.work_launched placed).trans prior)).follows sound _ _
      next entry prepared placed =>
        rw [tool?_of_prepared stripped placed]
        replace prior := (World.work_launched placed).trans prior
        cases compiling : request.target.compiler with
        | none =>
          rw [compiling] at ok
          cases ok
          exact (Course.idle prior).follows sound _ _
        | some compiler =>
          rw [compiling] at ok
          dsimp only [Option.bind_some] at ok ⊢
          cases looked : invocation request compiler generated.generated.directory
            (generated.state.checked?.getD default).grammarName prepared.files with
          | error error =>
            rw [looked] at ok
            cases ok
            exact (Course.refused prior).follows sound _ _
          | ok start =>
            rw [looked] at ok
            dsimp only at ok
            split at ok
            next => cases ok
            next ran left executed =>
              cases ok
              exact ((tool compiler maps _ start prepared).course executed prior).follows sound _ _

end Preparation

end Compilation

namespace TextParsing

theorem checkedLineEvent_kind (text : Option Source) (format : ReportFormat) (stream : Stream) (line : String)
    (event : Event) (found : Diagnosis) (read : checkedLineEvent text format stream line = .ok event)
    (told : event.diagnosis? = some found) :
    found.kind = .childProcessDiagnostic ∨ found.kind = .unparsedOutputLine := by
  have tells := tells_lineEvent text format (stream, line)
  rw [← (exact_checkedLineEvent text format (stream, line)).eq_of_ok read] at tells
  cases event with
  | diagnosis other =>
    cases told
    simp only [Event.Tells] at tells
    split at tells
    next => exact .inr tells.1
    next => exact .inl tells.1
  | lexerTime | parserTime | tokens | tree => cases told

def tool (request : Request) (text : Source) (invocation : Invocation) (world : World) : ToolStart where
  invocation := invocation
  ignored := request.target.ignoredLines
  interpret _ := checkedLineEvent (some text) request.target.reportFormat
  world := world
  reports _ := checkedLineEvent_kind (some text) request.target.reportFormat

def tool? (request : Request) (compiled : StateAt .parserCompiled) (world : World) : Option ToolStart :=
  request.parameters.textPath.bind fun path =>
    match plan request compiled path world.files with
    | .error _ => none
    | .ok (text, _, invocation) => some (tool request text invocation world)

theorem run_follows {system : System} {request : Request} {compiled : StateAt .parserCompiled}
    {next : StateAt .textParsed} {world after : World} (sound : compiled.state.hasErrors = false)
    (ok : run system request compiled world = (.ok next, after)) :
    Follows system .textParsed world after (tool? request compiled world) next.state := by
  unfold run at ok
  split at ok
  · cases ok
  · dsimp only at ok
    split at ok
    next given =>
      have unready : tool? request compiled world = none := by rw [tool?, given, Option.bind_none]
      cases ok
      rw [unready]
      refine Course.follows (.refused ?unlaunched) sound _ _
      case unlaunched => rfl
    next path given =>
      split at ok
      next error planned =>
        have unready : tool? request compiled world = none := by
          rw [tool?, given, Option.bind_some, planned]
        cases ok
        rw [unready]
        exact (Course.refused rfl).follows sound _ _
      next text root invocation planned =>
        have ready : tool? request compiled world = some (tool request text invocation world) := by
          rw [tool?, given, Option.bind_some, planned]
        rw [ready]
        split at ok
        next => cases ok
        next ran left executed =>
          cases ok
          exact ((tool request text invocation world).course executed rfl).follows sound _ _

end TextParsing

end GrammarFlow
