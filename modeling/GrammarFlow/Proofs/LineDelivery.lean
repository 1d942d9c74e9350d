import GrammarFlow.Proofs.ScheduledRuns

/-!
The runs of a program step by step are the runs that a launch describes by its signals. Every order of steps
that comes to an end has a launch with the same ending and the same lines, and every launch has an order of
steps. So what holds of all orders holds of the runs that a workflow makes.
-/

namespace GrammarFlow

def Signal.line? : Signal → Option Line
  | line stream text => some (stream, text)
  | cancel => none

/-- A launch that signals the lines of the program: all of them, unless it is to be cancelled or its end cannot be
waited for. -/
def Launch.Shows (lines : Stream → List String) : Launch → Prop
  | .failed _ => True
  | .ran signals _ _ _ => ∃ unread : Stream → List String,
    (∀ stream, lines stream = ofStream stream (signals.filterMap Signal.line?) ++ unread stream) ∧
      (.cancel ∈ signals ∨ ∀ stream, unread stream = [])
  | .lost signals _ _ _ => ∃ unread : Stream → List String,
    ∀ stream, lines stream = ofStream stream (signals.filterMap Signal.line?) ++ unread stream

theorem filterMap_line? (lines : List Line) :
    (lines.map fun (stream, text) => Signal.line stream text).filterMap Signal.line? = lines := by
  simp [List.filterMap_map, Function.comp_def, Signal.line?]

namespace Supervision
variable {ignored : IgnoredLines} {lines : Stream → List String} {cancelled : Bool} {state : Supervision}
  {ending : RunEnd}

theorem Steps.cancelledRun (steps : Steps ignored (start lines false) state) :
    ∃ launch : Launch, launch.Shows lines ∧ ∀ invocation files,
      let run := run (fun _ _ => launch) ignored (fun _ => false) false invocation files
      run.ending = .cancelled ∧ run.lines = state.handed := by
  obtain ⟨arrived, handed, all⟩ := steps.accounted
  let signals := (arrived.map fun (stream, text) => Signal.line stream text) ++ [.cancel]
  have shown : signals.filterMap Signal.line? = arrived := by
    rw [List.filterMap_append, filterMap_line?]
    exact List.append_nil arrived
  refine ⟨.ran signals (.exited 0) .empty false,
    ⟨fun stream => ofStream stream state.queue ++ (state.readers stream).unread, ?_, .inl ?_⟩, ?_⟩
  · intro stream
    rw [← all stream, ofStream_append, List.append_assoc, shown]
  · simp [signals]
  · intro invocation files
    simp [run, Run.ofSignals, signals, handOn_append, handOn, handed]

theorem Steps.finishedRun {status : ExitStatus} (steps : Steps ignored (start lines false) state)
    (ended : state.watch = .ended (.finished status)) :
    ∃ launch : Launch, launch.Shows lines ∧ ∀ invocation files,
      let run := run (fun _ _ => launch) ignored (fun _ => false) false invocation files
      run.ending = .finished status ∧ run.lines = state.handed := by
  obtain ⟨-, -, arrived, handed, all⟩ := steps.finished ended
  refine ⟨.ran (arrived.map fun (stream, text) => .line stream text) status .empty false,
    ⟨fun _ => [], ?_, .inr fun _ => rfl⟩, ?_⟩
  · intro stream
    rw [filterMap_line?, all stream, List.append_nil]
  · intro invocation files
    simp [run, Run.ofSignals, handOn_lines, handed]

/-- What was queued or unread when the wait failed is not signalled. -/
theorem Steps.lostRun (steps : Steps ignored (start lines false) state) (error : FileError) :
    ∃ launch : Launch, launch.Shows lines ∧ ∀ invocation files,
      let run := run (fun _ _ => launch) ignored (fun _ => false) false invocation files
      run.ending = .lost error ∧ run.lines = state.handed := by
  obtain ⟨arrived, handed, all⟩ := steps.accounted
  refine ⟨.lost (arrived.map fun (stream, text) => .line stream text) error .empty false,
    ⟨fun stream => ofStream stream state.queue ++ (state.readers stream).unread, ?_⟩, ?_⟩
  · intro stream
    rw [filterMap_line?, ← all stream, ofStream_append, List.append_assoc]
  · intro invocation files
    simp [run, Run.ofSignals, handOn_lines, handed]

/-- Every order of steps that comes to an end is the run of some launch. -/
theorem Steps.launched (steps : Steps ignored (start lines cancelled) state)
    (ended : state.watch = .ended ending) :
    ∃ launch : Launch, launch.Shows lines ∧ ∀ invocation files,
      let run := run (fun _ _ => launch) ignored (fun _ => false) cancelled invocation files
      run.ending = ending ∧ run.lines = state.handed := by
  cases cancelled with
  | true =>
    obtain ⟨-, -, handed, idle | past⟩ := steps.refused
    · simp [idle] at ended
    · rw [past] at ended
      cases ended
      exact ⟨.failed .unsupported, trivial, fun _ _ => ⟨rfl, handed.symm⟩⟩
  | false =>
    cases ending with
    | cancelled => exact steps.cancelledRun
    | notStarted error =>
      have handed := (steps.consistent.unstarted (by rw [ended]; rfl)).2
      exact ⟨.failed error, trivial, fun _ _ => ⟨rfl, handed.symm⟩⟩
    | finished status => exact steps.finishedRun ended
    | lost error => exact steps.lostRun error

/-- The starter is watching the program, and all that the readers have read it has taken out of the queue. -/
def attentive (unread : Stream → List String) (cancelled : Bool) (handed : List Line) : Supervision where
  watch := .watching
  cancelled := cancelled
  child := .running
  readers stream := ⟨unread stream, true⟩
  queue := []
  streamsOpen := true
  status := none
  handed := handed

theorem steps_attentive (ignored : IgnoredLines) (lines : Stream → List String) :
    Steps ignored (start lines false) (attentive lines false []) :=
  .head (.proceed rfl rfl) (.single (.launch rfl))

theorem attentive_cancel (ignored : IgnoredLines) (unread : Stream → List String) (handed : List Line) :
    ∃ state, Steps ignored (attentive unread false handed) state ∧ state.watch = .ended .cancelled ∧
      state.handed = handed :=
  ⟨_, .head (.ask _) (.head (.observe rfl rfl) (.single (.stop rfl))), rfl, rfl⟩

theorem attentive_line (ignored : IgnoredLines) {unread : Stream → List String} {stream : Stream}
    {text : String} {rest : List String} (next : unread stream = text :: rest) (handed : List Line) :
    Steps ignored (attentive unread false handed) (attentive (Function.update unread stream rest) false
      (if ignored.holds text then handed else handed ++ [(stream, text)])) := by
  have readers : Function.update (fun stream => Reader.mk (unread stream) true) stream ⟨rest, true⟩ =
      fun other => ⟨Function.update unread stream rest other, true⟩ :=
    (Function.comp_update (Reader.mk · true) unread stream rest).symm
  let read := { attentive (Function.update unread stream rest) false handed with queue := [(stream, text)] }
  have arrive : Step ignored (attentive unread false handed) read := by
    have step : Step ignored (attentive unread false handed) _ :=
      .read stream nofun (congrArg (Reader.mk · true) next)
    rwa [withReader, attentive, readers] at step
  exact .head arrive (.single (@Step.receive ignored read (stream, text) [] rfl rfl rfl))

/-- The readers come to the ends of their streams, and then the program ends. -/
theorem attentive_finish (ignored : IgnoredLines) (status : ExitStatus) (handed : List Line) :
    ∃ state, Steps ignored (attentive (fun _ => []) false handed) state ∧
      state.watch = .ended (.finished status) ∧ state.handed = handed := by
  let read := attentive (fun _ => []) false handed
  let closed := { read with readers := fun _ => ⟨[], false⟩ }
  have close : Steps ignored read closed := by
    have steps : Steps ignored read ((read.withReader .out ⟨[], false⟩).withReader .err ⟨[], false⟩) :=
      .head (.close .out nofun rfl) (.single (.close .err nofun rfl))
    have shut : Function.update (Function.update read.readers .out ⟨[], false⟩) .err ⟨[], false⟩ =
        fun _ => ⟨[], false⟩ := by
      funext stream
      cases stream <;> rfl
    rwa [withReader, withReader, shut] at steps
  exact ⟨_, close.trans (.head (.drain rfl rfl rfl fun _ => rfl) (.head (.exit status rfl)
    (.single (.notice rfl rfl rfl)))), rfl, rfl⟩

/-- The steps from a state can hand on these lines, to the end of a cancelled run or up to where the
signals end. -/
def CanHandOn (ignored : IgnoredLines) (rest : Stream → List String) (state : Supervision) :
    List Line × Bool → Prop
  | (handed, true) => ∃ later, Steps ignored state later ∧ later.watch = .ended .cancelled ∧
      later.handed = handed
  | (handed, false) => Steps ignored state (attentive rest false handed)

theorem CanHandOn.after {before : Supervision} {rest : Stream → List String} {result : List Line × Bool}
    (steps : Steps ignored before state) (can : CanHandOn ignored rest state result) :
    CanHandOn ignored rest before result := by
  obtain ⟨handed, stopped⟩ := result
  cases stopped with
  | true =>
    obtain ⟨later, further, ended, same⟩ := can
    exact ⟨later, steps.trans further, ended, same⟩
  | false => exact steps.trans can

theorem canHandOn (ignored : IgnoredLines) (stops : List Line → Bool) (signals : List Signal)
    {unread rest : Stream → List String} (handed : List Line)
    (shown : ∀ stream, unread stream = ofStream stream (signals.filterMap Signal.line?) ++ rest stream) :
    CanHandOn ignored rest (attentive unread false handed) (handOn ignored stops handed signals) := by
  induction signals generalizing unread handed with
  | nil =>
    have same : unread = rest := funext shown
    rw [same]
    exact .refl
  | cons signal signals ih =>
    cases signal with
    | cancel => exact attentive_cancel ignored unread handed
    | line stream text =>
      let behind := signals.filterMap Signal.line?
      have all : ∀ other, unread other =
          (if stream = other then [text] else []) ++ (ofStream other behind ++ rest other) := by
        intro other
        have read : (Signal.line stream text :: signals).filterMap Signal.line? =
          (stream, text) :: behind := rfl
        rw [shown other, read, ofStream_cons, List.append_assoc]
      have next : unread stream = text :: (ofStream stream behind ++ rest stream) := by
        simpa using all stream
      have later : ∀ other, Function.update unread stream (ofStream stream behind ++ rest stream) other =
          ofStream other behind ++ rest other := by
        intro other
        by_cases same : other = stream
        · subst same
          rw [Function.update_self]
        · rw [Function.update_of_ne same, all other, if_neg (Ne.symm same), List.nil_append]
      have first := attentive_line ignored next handed
      by_cases blank : ignored.holds text = true
      · simp only [handOn, if_pos blank] at first ⊢
        exact (ih handed later).after first
      · simp only [handOn, if_neg blank] at first ⊢
        split
        · obtain ⟨state, further, ended, same⟩ := attentive_cancel ignored
            (Function.update unread stream (ofStream stream behind ++ rest stream)) (handed ++ [(stream, text)])
          exact ⟨state, first.trans further, ended, same⟩
        · exact (ih _ later).after first

theorem not_cancel_mem_of_handOn {stops : List Line → Bool} {signals : List Signal} {handed : List Line}
    (through : (handOn ignored stops handed signals).2 = false) : .cancel ∉ signals := by
  induction signals generalizing handed with
  | nil => simp
  | cons signal signals ih =>
    cases signal with
    | cancel => simp [handOn] at through
    | line stream text =>
      simp only [handOn] at through
      split at through
      · simpa using ih through
      · split at through
        · cases through
        · simpa using ih through

/-- Signals of a program can be brought about by steps, if steps can then bring about its ending. -/
theorem steps_ofSignals {stops : List Line → Bool} {signals : List Signal} {unread : Stream → List String}
    (all : ∀ stream, lines stream = ofStream stream (signals.filterMap Signal.line?) ++ unread stream)
    (ends : .cancel ∉ signals → ∀ handed, ∃ state, Steps ignored (attentive unread false handed) state ∧
      state.watch = .ended ending ∧ state.handed = handed) (files : FileStore) (late : Bool) :
    let run := Run.ofSignals ignored stops signals ending files late
    ∃ state, Steps ignored (start lines false) state ∧ state.watch = .ended run.ending ∧
      state.handed = run.lines := by
  have can := (canHandOn ignored stops signals [] all).after (steps_attentive ignored lines)
  simp only [Run.ofSignals]
  obtain ⟨⟨handed, stopped⟩, result⟩ : ∃ result, handOn ignored stops [] signals = result := ⟨_, rfl⟩
  rw [result] at can ⊢
  cases stopped with
  | true => exact can
  | false =>
    obtain ⟨state, steps, ended, same⟩ := ends (not_cancel_mem_of_handOn (congrArg Prod.snd result)) handed
    exact ⟨state, can.trans steps, ended, same⟩

/-- Every launch has an order of steps with the same ending and the same lines. -/
theorem steps_of_launch {launch : Launch} (shows : launch.Shows lines) (ignored : IgnoredLines)
    (stops : List Line → Bool) (cancelled : Bool) (invocation : Invocation) (files : FileStore) :
    let run := run (fun _ _ => launch) ignored stops cancelled invocation files
    ∃ state, Steps ignored (start lines cancelled) state ∧ state.watch = .ended run.ending ∧
      state.handed = run.lines := by
  cases cancelled with
  | true => exact ⟨_, .single (.refuse rfl rfl), rfl, rfl⟩
  | false =>
    cases launch with
    | failed error => exact ⟨_, .head (.proceed rfl rfl) (.single (.launchFails error rfl)), rfl, rfl⟩
    | ran signals status after late =>
      obtain ⟨unread, all, complete⟩ := shows
      refine steps_ofSignals all (fun going handed => ?_) after late
      have read : unread = fun _ => [] := funext (complete.resolve_left going)
      rw [read]
      exact attentive_finish ignored status handed
    | lost signals error after late =>
      obtain ⟨unread, all⟩ := shows
      exact steps_ofSignals all (fun _ handed => ⟨_, .single (.waitFails error rfl rfl), rfl, rfl⟩) after late

/-- Lines are delivered once each and in order, whatever the order of steps: a run that ends with the
program's exit has handed on every line that is not ignored, and one that has seen the wish to cancel hands
on nothing more. The orders of steps that come to an end are the runs of the launches that signal these lines. -/
theorem every_schedule_delivers (ignored : IgnoredLines) (lines : Stream → List String) (cancelled : Bool)
    (state : Supervision) (steps : Steps ignored (start lines cancelled) state) :
    (∀ status, state.watch = .ended (.finished status) →
      (∀ stream, state.readers stream = ⟨[], false⟩) ∧ state.child = .exited status ∧
        ∀ stream, ofStream stream state.handed = (lines stream).filter (!ignored.holds ·)) ∧
    (state.watch = .stopping →
      (∃ later, Step ignored state later ∧ later.watch = .ended .cancelled) ∧
        ∀ later, Steps ignored state later →
          (later.watch = .stopping ∨ later.watch = .ended .cancelled) ∧ later.handed = state.handed) ∧
    (cancelled = true → state.child = .absent ∧ state.handed = [] ∧
      (state.watch = .idle ∨ state.watch = .ended .cancelled)) ∧
    (∀ ending, state.watch = .ended ending → ∃ launch : Launch, launch.Shows lines ∧
      ∀ invocation files,
        let run := run (fun _ _ => launch) ignored (fun _ => false) cancelled invocation files
        run.ending = ending ∧ run.lines = state.handed) ∧
    ∀ launch : Launch, launch.Shows lines → ∀ stops invocation files,
      let run := run (fun _ _ => launch) ignored stops cancelled invocation files
      ∃ last, Steps ignored (start lines cancelled) last ∧ last.watch = .ended run.ending ∧
        last.handed = run.lines := by
  refine ⟨?finished, ?stopping, ?refused, fun ending ended => steps.launched ended,
    fun launch shows stops => steps_of_launch shows ignored stops cancelled⟩
  case finished =>
    intro status ended
    obtain ⟨read, gone, arrived, handed, all⟩ := steps.finished ended
    refine ⟨read, gone, ?_⟩
    intro stream
    rw [handed, ofStream_filter stream (!ignored.holds ·), all stream]
  case stopping =>
    intro stopping
    exact ⟨⟨_, .stop stopping, rfl⟩, fun later further => further.stopped ⟨.inl stopping, rfl⟩⟩
  case refused =>
    rintro rfl
    exact ⟨steps.refused.absent, steps.refused.handed, steps.refused.watch⟩

/-- The end of the program is seen before any of its lines. -/
theorem late_lines_delivered :
    let lines : Stream → List String
      | .out => ["a", ""]
      | .err => ["e"]
    ∃ state, Steps .blankLines (start lines false) state ∧
      state.watch = .ended (.finished (.exited 0)) ∧ ofStream .out state.handed = ["a"] ∧
        ofStream .err state.handed = ["e"] := by
  intro lines
  obtain ⟨state, steps, ended⟩ : ∃ state, Steps .blankLines (start lines false) state ∧
      state.watch = .ended (.finished (.exited 0)) :=
    ⟨_, .head (.proceed rfl rfl) <| .head (.launch rfl) <| .head (.exit (.exited 0) rfl) <|
      .head (.notice rfl rfl rfl) <| .head (.read .err nofun rfl) <|
      .head (.read .out nofun rfl) <| .head (.receive rfl rfl rfl) <|
      .head (.read .out nofun rfl) <| .head (.close .out nofun rfl) <|
      .head (.receive rfl rfl rfl) <| .head (.close .err nofun rfl) <|
      .head (.receive rfl rfl rfl) <| .single (.drain rfl rfl rfl fun stream => by cases stream <;> rfl), rfl⟩
  have delivered := ((every_schedule_delivers .blankLines lines false state steps).1 _ ended).2.2
  exact ⟨state, steps, ended, (delivered .out).trans (by decide), (delivered .err).trans (by decide)⟩

end Supervision

end GrammarFlow
