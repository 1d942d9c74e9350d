import GrammarFlow.Proofs.LineAccounting
import GrammarFlow.Proofs.StateChains
import GrammarFlow.Workflow.Run

/-!
What a stage records and what it tells. Whatever a stage records while it is at work it tells the observer at
once. A failure that keeps it from its work is recorded as an exception with a diagnosis of its own, and of that
diagnosis alone the observer is not told.
-/

namespace GrammarFlow

/-- What an observer is told of the diagnoses of a state: all but the one that stands for its exception. -/
def State.ToldBy (state : State) (told : List Diagnosis) : Prop :=
  match state.exception with
  | none => state.diagnoses = told
  | some error => ∃ kind earlier later, told = earlier ++ later ∧
      state.diagnoses = earlier ++ { Diagnosis.error error.message state.stage with kind } :: later

structure World.Sent (before : World) (events : List Event) (after : World) : Prop where
  observer : after.observer = before.observer
  events : after.events = events.foldl before.observer.notify before.events

namespace World
variable {before between after : World}

theorem Sent.trans {first second : List Event} (sent : before.Sent first between)
    (more : between.Sent second after) : before.Sent (first ++ second) after where
  observer := more.observer.trans sent.observer
  events := by rw [more.events, sent.observer, sent.events, List.foldl_append]

theorem Sent.listening {events : List Event} (sent : before.Sent events after)
    (listens : before.observer = .listening) : after.events = before.events ++ events := by
  rw [sent.events, listens, Observer.foldl_notify_listening]

theorem sent_nothing (world : World) : world.Sent [] world := ⟨rfl, rfl⟩

theorem notify_sent (world : World) (event : Event) : world.Sent [event] (world.notify event) := ⟨rfl, rfl⟩

theorem notifyAll_sent (world : World) (events : List Event) : world.Sent events (world.notifyAll events) := by
  induction events generalizing world with
  | nil => exact world.sent_nothing
  | cons event events ih => exact (world.notify_sent event).trans (ih _)

theorem Sent.notifyAll (sent : before.Sent [] between) (events : List Event) :
    before.Sent events (between.notifyAll events) :=
  sent.trans (between.notifyAll_sent events)

theorem work_sent {α : Type} {work : FileWork α} {result : Except StageFailure α}
    (worked : before.work work = (result, after)) : before.Sent [] after := by
  cases worked
  exact ⟨rfl, rfl⟩

end World

namespace Progress

/-- A stage at work that has told of everything it has recorded. -/
structure AllTold (before : World) (progress : Progress) : Prop where
  whole : progress.outcome.exception = none
  told : ∃ events, before.Sent events progress.world ∧
    events.filterMap Event.diagnosis? = progress.outcome.diagnoses

/-- A stage at its end: it has told of everything, or of everything but its failure. -/
inductive Closed (stage : Stage) (before : World) : Progress → Prop where
  | whole {progress : Progress} (told : AllTold before progress) : Closed stage before progress
  | failed {progress : Progress} (told : AllTold before progress) (error : StageFailure)
      (kind : DiagnosisKind) : Closed stage before (progress.fail stage error kind)
  /-- The failure stands in front of what the stage has told of by then. -/
  | lost {progress : Progress} (told : AllTold before progress) (error : StageFailure)
      (kind : DiagnosisKind) : Closed stage before { progress with outcome := { progress.outcome with
        diagnoses := { Diagnosis.error error.message stage with kind } :: progress.outcome.diagnoses
        exception := some error } }

variable {stage : Stage} {before : World} {progress : Progress}

theorem AllTold.start {world : World} (sent : before.Sent [] world) : AllTold before (.start world) :=
  ⟨rfl, [], sent, rfl⟩

theorem AllTold.report (told : AllTold before progress) (found : Diagnosis) :
    AllTold before (progress.report found) := by
  obtain ⟨whole, events, sent, recorded⟩ := told
  refine ⟨whole, events ++ [.diagnosis found], sent.trans (World.notify_sent _ _), ?_⟩
  rw [List.filterMap_append, recorded]
  rfl

theorem AllTold.reportAll (told : AllTold before progress) (diagnoses : List Diagnosis) :
    AllTold before (diagnoses.foldl Progress.report progress) := by
  induction diagnoses generalizing progress with
  | nil => exact told
  | cons found diagnoses ih => exact ih (told.report found)

theorem AllTold.noteExit (told : AllTold before progress) (stage : Stage) (program : String)
    (status : ExitStatus) : AllTold before (progress.noteExit stage program status) := by
  unfold Progress.noteExit
  split
  · exact told
  · exact told.report _

end Progress

/-- Signals can only replace the ending of a run by a cancellation. -/
theorem ending_of_ofSignals {ignored : IgnoredLines} {stops : List Line → Bool} {signals : List Signal}
    {ending found : RunEnd} {files : FileStore} {late : Bool} (through : found ≠ .cancelled)
    (ended : (Run.ofSignals ignored stops signals ending files late).ending = found) : ending = found := by
  unfold Run.ofSignals at ended
  split at ended
  · exact absurd ended.symm through
  · exact ended

theorem lines_of_notStarted {system : System} {ignored : IgnoredLines} {stops : List Line → Bool}
    {cancelled : Bool} {invocation : Invocation} {files : FileStore} {error : FileError}
    (ended : (run system ignored stops cancelled invocation files).ending = .notStarted error) :
    (run system ignored stops cancelled invocation files).lines = [] := by
  unfold run at ended ⊢
  split
  · rfl
  next going =>
    rw [if_neg going] at ended
    split
    · rfl
    next ran =>
      simp only [ran] at ended
      exact absurd (ending_of_ofSignals RunEnd.noConfusion ended) RunEnd.noConfusion
    next lost =>
      simp only [lost] at ended
      exact absurd (ending_of_ofSignals RunEnd.noConfusion ended) RunEnd.noConfusion

/-- A program that was not cancelled leaves its stage with everything told, but for a start that failed. -/
theorem runProgram_closed {system : System} {stage : Stage} {ignored : IgnoredLines} {invocation : Invocation}
    {interpret : FileStore → Stream → String → Text.Checked Event} {before prepared after : World} {ran : ToolRun}
    (unsent : before.Sent [] prepared)
    (ok : runProgram system stage ignored invocation interpret prepared = (.ok ran, after)) :
    ran.progress.world = after ∧ ran.progress.Closed stage before ∧
      (ran.status ≠ none → ran.progress.AllTold before) := by
  unfold runProgram at ok
  extract_lets tool at ok
  obtain ⟨⟨events, excess⟩, read⟩ : ∃ result, readEvents (interpret tool.files) tool.lines = result := ⟨_, rfl⟩
  rw [read] at ok
  dsimp only at ok
  generalize left : World.notifyAll _ events = last at ok
  have sent : before.Sent events last := by
    rw [← left]
    refine World.Sent.notifyAll ?started events
    exact ⟨unsent.observer, unsent.events⟩
  split at ok
  next => cases ok
  next => cases ok
  next error ended =>
    cases ok
    have silent : events = [] := by
      have nothing : tool.lines = [] := lines_of_notStarted ended
      rw [nothing] at read
      cases read
      rfl
    have told : Progress.AllTold before ⟨⟨[], none, some invocation.commandLine⟩, after⟩ :=
      ⟨rfl, events, sent, by rw [silent]; rfl⟩
    exact ⟨rfl, .failed told _ _, fun started => absurd rfl started⟩
  next error ended =>
    cases ok
    have told : Progress.AllTold before
        ⟨⟨events.filterMap Event.diagnosis?, none, some invocation.commandLine⟩, after⟩ := ⟨rfl, events, sent, rfl⟩
    exact ⟨rfl, .lost told (.io error.message) .abnormalExit, fun finished => absurd rfl finished⟩
  next status ended =>
    cases ok
    have told : Progress.AllTold before
        ⟨⟨events.filterMap Event.diagnosis?, none, some invocation.commandLine⟩, last⟩ := ⟨rfl, events, sent, rfl⟩
    exact ⟨rfl, .whole (told.noteExit ..), fun _ => told.noteExit ..⟩

/-- A stage has made a state from the one before it, and has told the observer of what it recorded there. -/
structure Advanced (previous : State) (before : World) (next : State) (after : World) : Prop where
  going : before.cancelled = false
  derived : ∃ artifacts outcome follows, next = previous.derive artifacts outcome follows
  told : ∃ events, before.Sent events after ∧ next.ToldBy (events.filterMap Event.diagnosis?)

theorem Progress.Closed.toldBy {stage : Stage} {before : World} {progress : Progress}
    (closed : progress.Closed stage before) {state : State} (here : state.stage = stage)
    (recorded : state.outcome = progress.outcome) :
    ∃ events, before.Sent events progress.world ∧ state.ToldBy (events.filterMap Event.diagnosis?) := by
  unfold State.ToldBy State.exception State.diagnoses
  rw [recorded, here]
  cases closed with
  | whole told =>
    obtain ⟨whole, events, sent, same⟩ := told
    refine ⟨events, sent, ?_⟩
    rw [whole, same]
  | failed told error kind =>
    obtain ⟨-, events, sent, same⟩ := told
    refine ⟨events, sent, kind, events.filterMap Event.diagnosis?, [], (List.append_nil _).symm, ?_⟩
    rw [same]
    rfl
  | lost told error kind =>
    obtain ⟨-, events, sent, same⟩ := told
    refine ⟨events, sent, kind, [], events.filterMap Event.diagnosis?, rfl, ?_⟩
    rw [same]
    rfl

theorem Progress.Closed.advanced {stage earlier : Stage} {previous : StateAt earlier} {before : World}
    {progress : Progress} {artifacts : Artifacts} {follows : earlier.next? = some artifacts.stage}
    (closed : progress.Closed stage before) (going : ¬before.cancelled = true) (here : artifacts.stage = stage) :
    Advanced previous.state before (previous.next artifacts progress.outcome follows).state progress.world where
  going := Bool.eq_false_iff.2 going
  derived := ⟨artifacts, progress.outcome, by rw [previous.atStage]; exact follows, rfl⟩
  told := closed.toldBy here rfl

theorem GrammarCheck.run_advanced {checker : Checker} {input : StateAt .input}
    {next : StateAt .grammarChecked} {world after : World} (ok : run checker input world = (.ok next, after)) :
    Advanced input.state world next.state after := by
  unfold run at ok
  split at ok
  · cases ok
  next going =>
    cases ok
    refine Progress.Closed.advanced (.whole (Progress.AllTold.reportAll (.start ?unsent) _)) going rfl
    exact ⟨rfl, rfl⟩

theorem Generation.collect_closed {target : Target} {directory : String} {before : World}
    {progress : Progress} (told : progress.AllTold before) :
    (collect target directory progress).2.Closed .parserGenerated before := by
  unfold collect
  split
  · exact .whole told
  · exact .failed told _ _

theorem Generation.run_advanced {system : System} {request : Request} {checked : StateAt .grammarChecked}
    {next : StateAt .parserGenerated} {world after : World}
    (ok : run system request checked world = (.ok next, after)) :
    Advanced checked.state world next.state after := by
  unfold run at ok
  split at ok
  · cases ok
  next going =>
    dsimp only at ok
    split at ok
    next error prepared worked =>
      cases ok
      exact (Progress.Closed.failed (.start (World.work_sent worked)) error _).advanced going rfl
    next marked invocation prepared worked =>
      split at ok
      next => cases ok
      next ran left executed =>
        obtain ⟨rfl, closed, told⟩ := runProgram_closed (World.work_sent worked) executed
        split at ok
        next unstarted =>
          cases ok
          exact closed.advanced going rfl
        next status started =>
          cases ok
          exact (collect_closed (told (by simp [started]))).advanced going rfl

theorem Compilation.run_advanced {system : System} {request : Request} {generated : StateAt .parserGenerated}
    {next : StateAt .parserCompiled} {world after : World}
    (ok : run system request generated world = (.ok next, after)) :
    Advanced generated.state world next.state after := by
  unfold run at ok
  split at ok
  · cases ok
  next going =>
    dsimp only at ok
    split at ok
    next error marksOut stripped =>
      cases ok
      exact (Progress.Closed.failed (.start (World.work_sent stripped)) error _).advanced going rfl
    next maps marksOut stripped =>
      have unmarked := World.work_sent stripped
      split at ok
      next error prepared placed =>
        cases ok
        exact (Progress.Closed.failed (.start (unmarked.trans (World.work_sent placed))) error _).advanced going rfl
      next entry prepared placed =>
        have unsent := unmarked.trans (World.work_sent placed)
        split at ok
        next idle =>
          cases ok
          exact (Progress.Closed.whole (.start unsent)).advanced going rfl
        next compiler compiling =>
          split at ok
          next error looked =>
            cases ok
            exact (Progress.Closed.failed (.start unsent) _ _).advanced going rfl
          next invocation looked =>
            split at ok
            next => cases ok
            next ran left executed =>
              obtain ⟨rfl, closed, -⟩ := runProgram_closed unsent executed
              cases ok
              exact closed.advanced going rfl

theorem TextParsing.run_advanced {system : System} {request : Request} {compiled : StateAt .parserCompiled}
    {next : StateAt .textParsed} {world after : World}
    (ok : run system request compiled world = (.ok next, after)) :
    Advanced compiled.state world next.state after := by
  unfold run at ok
  split at ok
  · cases ok
  next going =>
    dsimp only at ok
    split at ok
    next missing =>
      cases ok
      exact (Progress.Closed.whole (.report (.start world.sent_nothing) _)).advanced going rfl
    next path given =>
      split at ok
      next error planned =>
        cases ok
        exact (Progress.Closed.failed (.start world.sent_nothing) error _).advanced going rfl
      next text root invocation planned =>
        split at ok
        next => cases ok
        next ran left executed =>
          obtain ⟨rfl, closed, -⟩ := runProgram_closed world.sent_nothing executed
          cases ok
          exact closed.advanced going rfl

end GrammarFlow
