import GrammarFlow.Proofs.StageCourses

/-!
A failure of a tool shows in the state that its stage makes, and a stage whose configuration is refused starts
no tool. An unsuccessful exit gets a diagnosis of its own just when no line of the tool tells of an error.
-/

namespace GrammarFlow

def exitMessage (program : String) (status : ExitStatus) : String :=
  "'" ++ program ++ "' " ++ status.render

example : exitMessage "java" (.exited 1) = "'java' exit status: 1" ∧
    exitMessage "cc" (.signaled 11 true) = "'cc' signal: 11 (SIGSEGV) (core dumped)" := by decide

def NotesExit (diagnoses : List Diagnosis) (program : String) (status : ExitStatus) : Prop :=
  ∃ found ∈ diagnoses, found.kind = .abnormalExit ∧ found.message = exitMessage program status

theorem notesExit_append {first second : List Diagnosis} {program : String} {status : ExitStatus} :
    NotesExit (first ++ second) program status ↔
      NotesExit first program status ∨ NotesExit second program status := by
  simp [NotesExit, or_and_right, exists_or]

theorem notesExit_exitDiagnoses (stage : Stage) (program : String) (status : ExitStatus)
    (reported : List Diagnosis) :
    NotesExit (exitDiagnoses stage program status reported) program status ↔
      status.succeeded = false ∧ anyError reported = false := by
  unfold exitDiagnoses
  split
  next explained =>
    refine ⟨fun ⟨_, absent, _⟩ => absurd absent List.not_mem_nil, ?_⟩
    rintro ⟨failed, unexplained⟩
    simp [failed, unexplained] at explained
  next unexplained =>
    rw [Bool.or_eq_true, not_or, Bool.not_eq_true, Bool.not_eq_true] at unexplained
    exact ⟨fun _ => unexplained, fun _ => ⟨_, List.mem_singleton_self _, rfl, rfl⟩⟩

theorem anyError_exitDiagnoses (stage : Stage) (program : String) (status : ExitStatus)
    (reported : List Diagnosis) :
    anyError (reported ++ exitDiagnoses stage program status reported) =
      (anyError reported || !status.succeeded) := by
  unfold exitDiagnoses
  split
  next explained =>
    rw [List.append_nil]
    revert explained
    cases status.succeeded <;> simp
  next unexplained =>
    rw [Bool.or_eq_true, not_or, Bool.not_eq_true, Bool.not_eq_true] at unexplained
    simp [unexplained, anyError, Diagnosis.isError, Diagnosis.error, Diagnosis.unlocated]

/-- A failure of input or output does not read like an exit. -/
theorem message_ne_exitMessage (message program : String) (status : ExitStatus) :
    (StageFailure.io message).message ≠ exitMessage program status := by
  unfold StageFailure.message exitMessage
  intro same
  have first := congrArg (fun message : String => message.toList.head?) same
  simp only [String.toList_append, List.head?_append] at first
  revert first
  simp

namespace ToolStart
variable {tool : ToolStart} {system : System} {stage : Stage} {status : ExitStatus}

theorem kind_of_reported {found : Diagnosis} (reported : found ∈ tool.reported system) :
    found.kind = .childProcessDiagnostic ∨ found.kind = .unparsedOutputLine := by
  obtain ⟨event, among, told⟩ := List.mem_filterMap.1 reported
  obtain ⟨⟨stream, text⟩, -, read⟩ := exists_of_mem_readEvents among
  exact tool.reports _ stream text event found read told

theorem not_notesExit_reported (program : String) :
    ¬NotesExit (tool.reported system) program status := by
  rintro ⟨found, reported, kind, -⟩
  obtain other | other := kind_of_reported reported <;> simp [kind] at other

theorem outcome_hasErrors :
    (tool.outcome system stage status).hasErrors =
      (anyError (tool.reported system) || !status.succeeded) :=
  anyError_exitDiagnoses ..

theorem notesExit_outcome :
    NotesExit (tool.outcome system stage status).diagnoses tool.invocation.program status ↔
      status.succeeded = false ∧ anyError (tool.reported system) = false := by
  rw [outcome, notesExit_append, notesExit_exitDiagnoses]
  exact or_iff_right (not_notesExit_reported _)

theorem not_notesExit_loss (error : FileError) (program : String) (status : ExitStatus) :
    ¬NotesExit (tool.loss system stage error).diagnoses program status := by
  rintro ⟨found, recorded, kind, same⟩
  rcases List.mem_cons.1 recorded with rfl | reported
  · exact message_ne_exitMessage _ _ _ same
  · exact not_notesExit_reported program ⟨found, reported, kind, same⟩

theorem kind_of_loss {error : FileError} {found : Diagnosis}
    (recorded : found ∈ (tool.loss system stage error).diagnoses) : found.kind ≠ .configurationError := by
  rcases List.mem_cons.1 recorded with rfl | reported
  · exact DiagnosisKind.noConfusion
  · obtain kind | kind := kind_of_reported reported <;> simp [kind]

theorem kind_of_outcome {found : Diagnosis}
    (recorded : found ∈ (tool.outcome system stage status).diagnoses) :
    found.kind ≠ .configurationError := by
  rw [outcome, List.mem_append] at recorded
  obtain reported | added := recorded
  · obtain kind | kind := kind_of_reported reported <;> simp [kind]
  · unfold exitDiagnoses at added
    split at added
    · simp at added
    · simp [List.mem_singleton.1 added]

end ToolStart

namespace Course
variable {system : System} {stage : Stage} {before after : World} {tool : Option ToolStart}
  {outcome : Outcome}

theorem launched (course : Course system stage before after tool outcome) :
    after.launched = before.launched ++ (tool.map ToolStart.invocation).toList := by
  cases course with
  | refused unlaunched | idle unlaunched =>
    rw [unlaunched, Option.map_none, Option.toList_none, List.append_nil]
  | notStarted _ launched | lost _ launched | finished _ launched | uncollected _ _ launched => exact launched

theorem command (course : Course system stage before after tool outcome) :
    outcome.command = tool.map (·.invocation.commandLine) := by
  cases course <;> rfl

theorem finishedOutcome {start : ToolStart} {status : ExitStatus}
    (course : Course system stage before after (some start) outcome)
    (ended : (start.run system).ending = .finished status) :
    outcome = start.outcome system stage status ∨
      ∃ message, outcome = (start.outcome system stage status).fail stage (.io message) .abnormalExit := by
  cases course with
  | notStarted other | lost other => cases ended.symm.trans other
  | finished other =>
    cases ended.symm.trans other
    exact .inl rfl
  | uncollected error other =>
    cases ended.symm.trans other
    exact .inr ⟨error.message, rfl⟩

theorem lostOutcome {start : ToolStart} {error : FileError}
    (course : Course system stage before after (some start) outcome)
    (ended : (start.run system).ending = .lost error) : outcome = start.loss system stage error := by
  cases course with
  | notStarted other | finished other | uncollected _ other => cases ended.symm.trans other
  | lost other =>
    cases ended.symm.trans other
    rfl

theorem reported_prefix {start : ToolStart} {status : ExitStatus}
    (course : Course system stage before after (some start) outcome)
    (ended : (start.run system).ending = .finished status) :
    start.reported system <+: outcome.diagnoses := by
  have known : start.reported system <+: (start.outcome system stage status).diagnoses :=
    List.prefix_append ..
  obtain rfl | ⟨message, rfl⟩ := course.finishedOutcome ended
  · exact known
  · exact known.trans (List.prefix_append ..)

theorem hasErrors_of_failure {start : ToolStart}
    (course : Course system stage before after (some start) outcome)
    (failed : ∀ status, (start.run system).ending = .finished status → status.succeeded = false) :
    outcome.hasErrors = true := by
  cases course with
  | notStarted | lost | uncollected => rfl
  | finished ended =>
    rw [ToolStart.outcome_hasErrors, failed _ ended]
    exact Bool.or_true _

theorem notesExit_iff {start : ToolStart} {status : ExitStatus}
    (course : Course system stage before after (some start) outcome)
    (ended : (start.run system).ending = .finished status) :
    NotesExit outcome.diagnoses start.invocation.program status ↔
      status.succeeded = false ∧ anyError (start.reported system) = false := by
  obtain rfl | ⟨message, rfl⟩ := course.finishedOutcome ended
  · exact ToolStart.notesExit_outcome
  · refine notesExit_append.trans (Iff.trans (or_iff_left ?_) ToolStart.notesExit_outcome)
    rintro ⟨found, added, -, same⟩
    rw [List.mem_singleton.1 added] at same
    exact message_ne_exitMessage _ _ _ same

theorem not_notesExit (course : Course system stage before after tool outcome)
    (unfinished : ∀ start ∈ tool, ∀ status, (start.run system).ending ≠ .finished status)
    (program : String) (status : ExitStatus) : ¬NotesExit outcome.diagnoses program status := by
  intro noted
  cases course with
  | refused | notStarted =>
    obtain ⟨found, recorded, kind, -⟩ := noted
    simp [List.mem_singleton.1 recorded] at kind
  | idle =>
    obtain ⟨found, recorded, -⟩ := noted
    cases recorded
  | lost => exact ToolStart.not_notesExit_loss _ program status noted
  | finished ended | uncollected _ ended => exact unfinished _ rfl _ ended

theorem clean {start : ToolStart} {status : ExitStatus}
    (course : Course system stage before after (some start) outcome)
    (ended : (start.run system).ending = .finished status) (succeeded : status.succeeded = true)
    (quiet : anyError (start.reported system) = false) (whole : outcome.exception = none) :
    outcome.hasErrors = false := by
  obtain rfl | ⟨message, rfl⟩ := course.finishedOutcome ended
  · rw [ToolStart.outcome_hasErrors, quiet, succeeded]
    rfl
  · cases whole

theorem refusal {found : Diagnosis} (course : Course system stage before after tool outcome)
    (recorded : found ∈ outcome.diagnoses) (configuration : found.kind = .configurationError) :
    outcome.diagnoses = [found] ∧ outcome.hasErrors = true ∧ outcome.command = none ∧
      after.launched = before.launched := by
  cases course with
  | refused unlaunched =>
    rw [List.mem_singleton.1 recorded]
    exact ⟨rfl, Bool.or_true _, rfl, unlaunched⟩
  | idle => cases recorded
  | notStarted =>
    rw [List.mem_singleton.1 recorded] at configuration
    cases configuration
  | lost => exact absurd configuration (ToolStart.kind_of_loss recorded)
  | finished => exact absurd configuration (ToolStart.kind_of_outcome recorded)
  | uncollected =>
    obtain recorded | added := List.mem_append.1 recorded
    · exact absurd configuration (ToolStart.kind_of_outcome recorded)
    · rw [List.mem_singleton.1 added] at configuration
      cases configuration

end Course

/-- A state tells how the tool went that its stage had ready. -/
structure TellsOfTool (system : System) (before after : World) (tool : Option ToolStart)
    (state : State) : Prop where
  launched : after.launched = before.launched ++ (tool.map ToolStart.invocation).toList
  command : state.command = tool.map (·.invocation.commandLine)
  recorded : ∀ start ∈ tool, ∀ status, (start.run system).ending = .finished status →
    start.reported system <+: state.diagnoses
  lost : ∀ start ∈ tool, ∀ error, (start.run system).ending = .lost error →
    state.exception = some (.io error.message) ∧ ∃ found, state.diagnoses = found :: start.reported system ∧
      found.kind = .abnormalExit ∧ found.severity = .error ∧
      found.message = (StageFailure.io error.message).message
  failure : ∀ start ∈ tool, ((∃ error, (start.run system).ending = .notStarted error) ∨
    (∃ error, (start.run system).ending = .lost error) ∨
    ∃ status, (start.run system).ending = .finished status ∧ status.succeeded = false) →
      state.hasErrors = true
  exit : ∀ start ∈ tool, ∀ status, (start.run system).ending = .finished status →
    (NotesExit state.diagnoses start.invocation.program status ↔
      status.succeeded = false ∧ anyError (start.reported system) = false)
  noExit : (∀ start ∈ tool, ∀ status, (start.run system).ending ≠ .finished status) →
    ∀ program status, ¬NotesExit state.diagnoses program status
  clean : ∀ start ∈ tool, ∀ status, (start.run system).ending = .finished status →
    status.succeeded = true → anyError (start.reported system) = false → state.exception = none →
      state.hasErrors = false
  refusal : ∀ found ∈ state.diagnoses, found.kind = .configurationError →
    state.diagnoses = [found] ∧ state.hasErrors = true ∧ state.command = none ∧
      after.launched = before.launched

theorem Follows.tellsOfTool {system : System} {stage : Stage} {before after : World}
    {tool : Option ToolStart} {state : State} (follows : Follows system stage before after tool state) :
    TellsOfTool system before after tool state := by
  obtain ⟨course, errors⟩ := follows
  refine ⟨course.launched, course.command, ?recorded, ?lost, ?failure, ?exit, course.not_notesExit, ?clean,
    ?refusal⟩
  case recorded =>
    rintro start ⟨⟩ status ended
    exact course.reported_prefix ended
  case lost =>
    rintro start ⟨⟩ error ended
    have lost := course.lostOutcome ended
    refine ⟨congrArg Outcome.exception lost, _, congrArg Outcome.diagnoses lost, rfl, rfl, rfl⟩
  case failure =>
    rintro start ⟨⟩ failed
    refine errors.trans (course.hasErrors_of_failure fun status ended => ?_)
    rcases failed with ⟨error, other⟩ | ⟨error, other⟩ | ⟨_, same, failed⟩
    · cases ended.symm.trans other
    · cases ended.symm.trans other
    · cases ended.symm.trans same
      exact failed
  case exit =>
    rintro start ⟨⟩ status ended
    exact course.notesExit_iff ended
  case clean =>
    rintro start ⟨⟩ status ended succeeded quiet whole
    exact errors.trans (course.clean ended succeeded quiet whole)
  case refusal =>
    intro found recorded configuration
    rw [errors]
    exact course.refusal recorded configuration

theorem TellsOfTool.silent {system : System} {before after : World} {tool : Option ToolStart}
    {state : State} {program : String} {status : ExitStatus}
    (told : TellsOfTool system before after tool state)
    (silent : tool.map (fun start => (start.invocation.program, (start.run system).ending,
      anyError (start.reported system))) = some (program, .finished status, false))
    (failed : status.succeeded = false) :
    state.hasErrors = true ∧ NotesExit state.diagnoses program status := by
  obtain ⟨start, ready, same⟩ := Option.map_eq_some_iff.1 silent
  obtain ⟨rfl, rest⟩ := Prod.mk.inj same
  obtain ⟨ended, quiet⟩ := Prod.mk.inj rest
  exact ⟨told.failure start ready (.inr (.inr ⟨status, ended, failed⟩)),
    (told.exit start ready status ended).2 ⟨failed, quiet⟩⟩

theorem TellsOfTool.lostBehind {system : System} {before after : World} {tool : Option ToolStart}
    {state : State} (told : TellsOfTool system before after tool state) (error : FileError) (messages : List String)
    (lost : tool.map (fun start => ((start.run system).ending, (start.reported system).map Diagnosis.message)) =
      some (.lost error, messages)) :
    state.hasErrors = true ∧
      state.diagnoses.map Diagnosis.message = (StageFailure.io error.message).message :: messages := by
  obtain ⟨start, ready, same⟩ := Option.map_eq_some_iff.1 lost
  obtain ⟨ended, rfl⟩ := Prod.mk.inj same
  obtain ⟨-, found, recorded, -, -, message⟩ := told.lost start ready error ended
  exact ⟨told.failure start ready (.inr (.inl ⟨error, ended⟩)), by rw [recorded, List.map_cons, message]⟩

/-- Whatever a tool does, the state behind it tells of its failure, and it tells of no failure that there was
not. -/
theorem tool_failures_told (system : System) :
    (∀ request (checked : StateAt .grammarChecked) world next after, checked.state.hasErrors = false →
      Generation.run system request checked world = (.ok next, after) →
        TellsOfTool system world after (Generation.tool? request checked world) next.state) ∧
    (∀ request (generated : StateAt .parserGenerated) world next after, generated.state.hasErrors = false →
      Compilation.run system request generated world = (.ok next, after) →
        TellsOfTool system world after (Compilation.tool? request generated world) next.state) ∧
    ∀ request (compiled : StateAt .parserCompiled) world next after, compiled.state.hasErrors = false →
      TextParsing.run system request compiled world = (.ok next, after) →
        TellsOfTool system world after (TextParsing.tool? request compiled world) next.state := by
  refine ⟨?generation, ?compilation, ?parsing⟩
  case generation =>
    intro request checked world next after sound ok
    exact (Generation.run_follows sound ok).tellsOfTool
  case compilation =>
    intro request generated world next after sound ok
    exact (Compilation.run_follows sound ok).tellsOfTool
  case parsing =>
    intro request compiled world next after sound ok
    exact (TextParsing.run_follows sound ok).tellsOfTool

/-- Generator, compiler and parser print nothing and come to ends that are not successful. Another generator is lost
behind its first line. -/
theorem silent_exits_told :
    let system : System := fun invocation files =>
      .ran [] (if invocation.program = "cc" then .signaled 11 false else .exited 1) files false
    let losing : System := fun _ files => .lost [.line .err "odd"] .noChild files false
    let target : Target := ⟨"t", "T", .hosted, some "host", "Main", [], [], [], "T", ["x"], "/*", "*/", none,
      none, some ⟨"cc", [], ⟨"", .sequence []⟩, 1, []⟩⟩
    let input : StateAt .input := ⟨.input ⟨"g", [], none⟩, rfl⟩
    let checked := input.next (.grammarChecked ⟨"g", ["r"], [], []⟩) .empty rfl
    let generated := checked.next (.parserGenerated ⟨"t", "d", [], []⟩) .empty rfl
    let compiled := generated.next (.parserCompiled ⟨"t", "d", .ofList ["r"], none⟩) .empty rfl
    let world := World.start ⟨.folder [("text", .file [97] false)], []⟩ .absent
    (∃ next after, Generation.run system ⟨target, default, default⟩ checked world = (.ok next, after) ∧
      next.state.hasErrors = true ∧ NotesExit next.state.diagnoses "java" (.exited 1)) ∧
    (∃ next after, Compilation.run system ⟨target, default⟩ generated world = (.ok next, after) ∧
      next.state.hasErrors = true ∧ NotesExit next.state.diagnoses "cc" (.signaled 11 false)) ∧
    (∃ next after, TextParsing.run system ⟨target, default, ⟨some "/text", none, false, .ll⟩⟩ compiled world =
        (.ok next, after) ∧
      next.state.hasErrors = true ∧ NotesExit next.state.diagnoses "host" (.exited 1)) ∧
    ∃ next after, Generation.run losing ⟨target, default, default⟩ checked world = (.ok next, after) ∧
      next.state.hasErrors = true ∧ next.state.diagnoses.map Diagnosis.message =
        ["I/O error: No child processes (os error 10)", "Unknown error: odd"] := by
  intro system losing target input checked generated compiled world
  obtain ⟨generation, compilation, parsing⟩ := tool_failures_told system
  refine ⟨?generation, ?compilation, ?parsing, ?lost⟩
  case generation =>
    obtain ⟨next, after, ok⟩ := exists_of_isOk (by decide +kernel :
      (Generation.run system ⟨target, default, default⟩ checked world).1.isOk = true)
    exact ⟨next, after, ok, (generation _ _ _ _ _ rfl ok).silent (by decide +kernel) rfl⟩
  case compilation =>
    obtain ⟨next, after, ok⟩ := exists_of_isOk (by decide +kernel :
      (Compilation.run system ⟨target, default⟩ generated world).1.isOk = true)
    exact ⟨next, after, ok, (compilation _ _ _ _ _ rfl ok).silent (by decide +kernel) rfl⟩
  case parsing =>
    obtain ⟨next, after, ok⟩ := exists_of_isOk (by decide +kernel :
      (TextParsing.run system ⟨target, default, ⟨some "/text", none, false, .ll⟩⟩ compiled world).1.isOk = true)
    exact ⟨next, after, ok, (parsing _ _ _ _ _ rfl ok).silent (by decide +kernel) rfl⟩
  case lost =>
    obtain ⟨next, after, ok⟩ := exists_of_isOk (by decide +kernel :
      (Generation.run losing ⟨target, default, default⟩ checked world).1.isOk = true)
    have told := (tool_failures_told losing).1 _ _ _ _ _ rfl ok
    exact ⟨next, after, ok, told.lostBehind .noChild ["Unknown error: odd"] (by decide +kernel)⟩

end GrammarFlow
