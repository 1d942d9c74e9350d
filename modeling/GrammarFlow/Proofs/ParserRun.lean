import GrammarFlow.Proofs.BoundedReading
import GrammarFlow.Workflow.TextParsing

/-!
The state that a run of a parser leaves. It is made from a transcript of the lines that are not
ignored, and from the exit of the program, which adds a diagnosis of its own only when nothing else
tells of a failure. A line that asks for something beyond 64 bits leaves no state.
-/

namespace GrammarFlow

theorem handOn_append (ignored : IgnoredLines) (handed lines : List Line) (signals : List Signal) :
    handOn ignored (fun _ => false) handed
        (lines.map (fun (stream, text) => .line stream text) ++ signals) =
      handOn ignored (fun _ => false)
        (handed ++ lines.filter fun (_, text) => !ignored.holds text) signals := by
  induction lines generalizing handed with
  | nil => simp
  | cons line lines ih =>
    obtain ⟨stream, text⟩ := line
    by_cases blank : ignored.holds text = true
    · simp [handOn, blank, ih]
    · simp [handOn, blank, ih]

theorem handOn_lines (ignored : IgnoredLines) (handed lines : List Line) :
    handOn ignored (fun _ => false) handed (lines.map fun (stream, text) => .line stream text) =
      (handed ++ lines.filter fun (_, text) => !ignored.holds text, false) := by
  simpa [handOn] using handOn_append ignored handed lines []

section
variable {interpret : Stream → String → Text.Checked Event} {lines : List Line}

theorem readEvents_eq_none_iff {events : List Event} : readEvents interpret lines = (events, none) ↔
    List.Forall₂ (fun line event => interpret line.1 line.2 = .ok event) lines events := by
  induction lines generalizing events with
  | nil => cases events <;> simp [readEvents]
  | cons line lines ih =>
    cases read : interpret line.1 line.2 with
    | error excess => cases events <;> simp [readEvents, read]
    | ok event => cases events <;> simp [readEvents, read, Prod.ext_iff, ← ih, and_assoc]

theorem exists_of_mem_readEvents {event : Event} (among : event ∈ (readEvents interpret lines).1) :
    ∃ line ∈ lines, interpret line.1 line.2 = .ok event := by
  induction lines with
  | nil => cases among
  | cons line lines ih =>
    cases read : interpret line.1 line.2 with
    | error excess => simp [readEvents, read] at among
    | ok first =>
      simp only [readEvents, read, List.mem_cons] at among
      rcases among with rfl | later
      · exact ⟨line, List.mem_cons_self, read⟩
      · obtain ⟨other, there, same⟩ := ih later
        exact ⟨other, List.mem_cons_of_mem _ there, same⟩

end

def exitDiagnoses (stage : Stage) (program : String) (status : ExitStatus)
    (reported : List Diagnosis) : List Diagnosis :=
  if status.succeeded || anyError reported then []
  else
    [{ Diagnosis.error ("'" ++ program ++ "' " ++ status.render) stage with kind := .abnormalExit }]

theorem Progress.noteExit_outcome (progress : Progress) (stage : Stage) (program : String)
    (status : ExitStatus) :
    (progress.noteExit stage program status).outcome = { progress.outcome with
      diagnoses := progress.outcome.diagnoses ++
        exitDiagnoses stage program status progress.outcome.diagnoses } := by
  unfold noteExit exitDiagnoses
  split
  · simp
  · rfl

theorem runProgram_finished {system : System} {invocation : Invocation} {world : World}
    {lines : List Line} {status : ExitStatus} {after : FileStore} {late : Bool}
    (going : world.cancelled = false)
    (ran : system invocation world.files =
      .ran (lines.map fun (stream, text) => .line stream text) status after late)
    (stage : Stage) {ignored : IgnoredLines} {interpret : FileStore → Stream → String → Text.Checked Event}
    {events : List Event} (read : List.Forall₂ (fun line event => interpret after line.1 line.2 = .ok event)
      (lines.filter fun (_, text) => !ignored.holds text) events) :
    let found := events.filterMap Event.diagnosis?
    ∃ tool left, runProgram system stage ignored invocation interpret world = (.ok tool, left) ∧
      tool.events = events ∧ tool.progress.outcome =
        ⟨found ++ exitDiagnoses stage invocation.program status found, none,
          some invocation.commandLine⟩ := by
  have finished : run system ignored (fun _ => false) world.cancelled invocation world.files =
      ⟨.finished status, lines.filter fun (_, text) => !ignored.holds text, after, late⟩ := by
    simp [run, going, ran, Run.ofSignals, handOn_lines]
  intro found
  simp only [runProgram, finished, readEvents_eq_none_iff.2 read]
  exact ⟨_, _, rfl, rfl, Progress.noteExit_outcome ..⟩

namespace TextParsing

theorem follows_compilation (parsed : TextParsed) :
    Stage.parserCompiled.next? = some (Artifacts.textParsed parsed).stage := rfl

def finish (compiled : StateAt .parserCompiled) (root : EntryRule) (invocation : Invocation)
    (status : ExitStatus) (output : Transcript) : StateAt .textParsed :=
  let exit := exitDiagnoses .textParsed invocation.program status output.diagnoses
  compiled.next (.textParsed { output.artifacts with root := some root.name })
    ⟨output.diagnoses ++ exit, none, some invocation.commandLine⟩ (follows_compilation _)

/-- The stage leaves what `finish` makes of the transcript of its lines, so that what is said of transcripts is said
of the states that a parser's run leaves. -/
theorem run_finish {system : System} {request : Request} {compiled : StateAt .parserCompiled}
    {world : World} {path : String} {text : Source} {root : EntryRule} {invocation : Invocation}
    {lines : List Line} {status : ExitStatus} {after : FileStore} {late : Bool}
    (going : world.cancelled = false) (given : request.parameters.textPath = some path)
    (planned : plan request compiled path world.files = .ok (text, root, invocation))
    (ran : system invocation world.files =
      .ran (lines.map fun (stream, line) => .line stream line) status after late) :
    let kept := lines.filter fun (_, line) => !request.target.ignoredLines.holds line
    let output :=
      (Transcript.start (some text) request.target.reportFormat world.observer).lines kept
    (∀ line ∈ kept, ¬line.Exceeds (some text) request.target.reportFormat) →
      (run system request compiled world).1 = .ok (finish compiled root invocation status output) := by
  intro kept output held
  let interpret (_ : FileStore) := checkedLineEvent (some text) request.target.reportFormat
  have read : List.Forall₂ (fun line event => interpret after line.1 line.2 = .ok event)
      kept (kept.map fun line => lineEvent (some text) request.target.reportFormat line.1 line.2) := by
    rw [List.forall₂_map_right_iff, List.forall₂_same]
    exact fun line among => (exact_checkedLineEvent ..).within (held line among)
  obtain ⟨⟨⟨_, _⟩, _, _⟩, left, finished, rfl, rfl⟩ := runProgram_finished going ran .textParsed read
  dsimp only [interpret] at finished
  have made : output = _ := Transcript.lines_start ..
  rw [made]
  simp only [run, going, given, planned, finished, Bool.false_eq_true, if_false]
  rfl

end TextParsing

end GrammarFlow
