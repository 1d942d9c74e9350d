import GrammarFlow.Process.Schedule
import GrammarFlow.Proofs.ParserRun

/-!
Whatever the order of steps, a run that ends with the program's exit has handed on every line that is not
ignored, and once it has seen the wish to cancel it hands on nothing more. The step relation allows exactly
the runs that a launch with its signals describes.
-/

namespace GrammarFlow

theorem ofStream_append (stream : Stream) (first second : List Line) :
    ofStream stream (first ++ second) = ofStream stream first ++ ofStream stream second := by
  simp [ofStream]

theorem ofStream_cons (stream : Stream) (line : Line) (lines : List Line) :
    ofStream stream (line :: lines) =
      (if line.1 = stream then [line.2] else []) ++ ofStream stream lines := by
  by_cases same : line.1 = stream <;> simp [ofStream, same]

theorem ofStream_filter (stream : Stream) (keep : String → Bool) (lines : List Line) :
    ofStream stream (lines.filter fun line => keep line.2) = (ofStream stream lines).filter keep := by
  simp [ofStream, List.filter_map, List.filter_filter, Function.comp_def, Bool.and_comm]

theorem Child.kill_of_exited {child : Child} {status : ExitStatus} (gone : child = .exited status) :
    child.kill = .exited status := by
  rw [gone]
  rfl

def Watch.beforeStart : Watch → Bool
  | idle | starting | ended (.notStarted _) => true
  | _ => false

namespace Supervision
variable {ignored : IgnoredLines} {lines : Stream → List String} {state next : Supervision}

theorem settle_eq (state : Supervision) : state.settle = state ∨ ∃ status,
    state.status = some status ∧ state.streamsOpen = false ∧
      state.settle = { state with watch := .ended (.finished status) } := by
  unfold settle
  split
  next status seen past => exact .inr ⟨status, seen, past, rfl⟩
  next => exact .inl rfl

/-- Every line has been handed on, ignored, queued or is still unread, in the order of its stream. -/
def Accounted (ignored : IgnoredLines) (lines : Stream → List String) (state : Supervision) : Prop :=
  ∃ arrived, state.handed = arrived.filter (fun line => !ignored.holds line.2) ∧
    ∀ stream, ofStream stream (arrived ++ state.queue) ++ (state.readers stream).unread = lines stream

theorem accounted_settle (accounted : Accounted ignored lines state) :
    Accounted ignored lines state.settle := by
  obtain same | ⟨status, -, -, same⟩ := state.settle_eq
  · rwa [same]
  · rw [same]
    exact accounted

theorem Step.accounted (step : Step ignored state next) (accounted : Accounted ignored lines state) :
    Accounted ignored lines next := by
  cases step with
  | @read stream line rest started reader =>
    obtain ⟨arrived, handed, all⟩ := accounted
    refine ⟨arrived, handed, ?_⟩
    intro other
    rw [← all other, ← List.append_assoc, ofStream_append _ _ [_], List.append_assoc]
    congr 1
    by_cases same : stream = other
    · subst same
      simp [ofStream, withReader, reader]
    · simp [ofStream, withReader, same, Function.update_of_ne (Ne.symm same)]
  | close stream started reader =>
    obtain ⟨arrived, handed, all⟩ := accounted
    refine ⟨arrived, handed, ?_⟩
    intro other
    rw [← all other]
    by_cases same : other = stream
    · subst same
      simp [withReader, reader]
    · simp [withReader, Function.update_of_ne same]
  | @receive line rest here listening queued =>
    obtain ⟨arrived, handed, all⟩ := accounted
    refine ⟨arrived ++ [line], ?_, ?_⟩
    · by_cases blank : ignored.holds line.2 = true <;> simp [handed, blank]
    · simpa [queued] using all
  | drain => exact accounted_settle accounted
  | notice => exact accounted_settle accounted
  | stop => exact accounted
  | stopFails => exact accounted
  | ask | exit | refuse | proceed | launch | launchFails | observe | waitFails => exact accounted

/-- What the starter has seen is so, and it hands nothing on before there is a program. -/
structure Consistent (state : Supervision) : Prop where
  unstarted : state.watch.beforeStart = true → state.child = .absent ∧ state.handed = []
  closed : state.watch ≠ .ended .cancelled →
    ∀ stream, (state.readers stream).isOpen = false → (state.readers stream).unread = []
  drained : state.streamsOpen = false →
    state.queue = [] ∧ ∀ stream, (state.readers stream).isOpen = false
  noticed : ∀ status, state.status = some status → state.child = .exited status
  finished : ∀ status, state.watch = .ended (.finished status) →
    state.status = some status ∧ state.streamsOpen = false

theorem consistent_start (lines : Stream → List String) (cancelled : Bool) :
    Consistent (start lines cancelled) := by
  refine ⟨fun _ => ⟨rfl, rfl⟩, ?_, nofun, nofun, nofun⟩
  intro _ stream shut
  cases shut

theorem Consistent.settle (consistent : Consistent state) (here : state.watch = .watching) :
    Consistent state.settle := by
  obtain same | ⟨status, seen, past, same⟩ := state.settle_eq
  · rwa [same]
  · rw [same]
    refine ⟨nofun, fun _ => consistent.closed (by simp [here]), consistent.drained,
      consistent.noticed, ?_⟩
    rintro other ⟨⟩
    exact ⟨seen, past⟩

theorem Step.consistent (step : Step ignored state next) (consistent : Consistent state) :
    Consistent next := by
  obtain ⟨unstarted, closed, drained, noticed, finished⟩ := consistent
  cases step with
  | ask => exact ⟨unstarted, closed, drained, noticed, finished⟩
  | @read stream line rest started reader =>
    have busy : state.streamsOpen ≠ false := by
      intro past
      simpa [reader] using (drained past).2 stream
    refine ⟨unstarted, ?_, fun past => absurd past busy, noticed, finished⟩
    intro going other shut
    by_cases same : other = stream
    · subst same
      simp [withReader] at shut
    · simp only [withReader, Function.update_of_ne same] at shut ⊢
      exact closed going other shut
  | close stream started reader =>
    refine ⟨unstarted, ?_, ?_, noticed, finished⟩
    · intro going other shut
      by_cases same : other = stream
      · subst same
        simp [withReader]
      · simp only [withReader, Function.update_of_ne same] at shut ⊢
        exact closed going other shut
    · intro past
      simpa [reader] using (drained past).2 stream
  | exit status running =>
    refine ⟨?_, closed, drained, ?_, finished⟩
    · intro before
      rw [(unstarted before).1] at running
      cases running
    · intro other seen
      rw [noticed other seen] at running
      cases running
  | refuse => exact ⟨nofun, fun going => absurd rfl going, drained, noticed, nofun⟩
  | proceed here =>
    exact ⟨fun _ => unstarted (by rw [here]; rfl), fun _ => closed (by simp [here]), drained, noticed, nofun⟩
  | launch here =>
    have absent := (unstarted (by rw [here]; rfl)).1
    refine ⟨nofun, fun _ => closed (by simp [here]), drained, ?_, nofun⟩
    intro status seen
    rw [noticed status seen] at absent
    cases absent
  | launchFails error here =>
    exact ⟨fun _ => unstarted (by rw [here]; rfl), fun _ => closed (by simp [here]), drained, noticed, nofun⟩
  | observe here => exact ⟨nofun, fun _ => closed (by simp [here]), drained, noticed, nofun⟩
  | receive here listening queued =>
    refine ⟨by simp [here, Watch.beforeStart], closed, ?_, noticed, finished⟩
    intro past
    rw [listening] at past
    cases past
  | drain here listening empty shut =>
    exact Consistent.settle ⟨by simp [here, Watch.beforeStart], closed, fun _ => ⟨empty, shut⟩, noticed,
      by simp [here]⟩ here
  | notice here waiting gone =>
    refine Consistent.settle ⟨by simp [here, Watch.beforeStart], closed, drained, ?_, by simp [here]⟩ here
    rintro other ⟨⟩
    exact gone
  | waitFails error here => exact ⟨nofun, fun _ => closed (by simp [here]), drained, noticed, nofun⟩
  | stop here =>
    refine ⟨nofun, fun going => absurd rfl going, ?_,
      fun status seen => Child.kill_of_exited (noticed status seen), nofun⟩
    intro past
    exact ⟨(drained past).1, fun _ => rfl⟩
  | stopFails here =>
    exact ⟨nofun, fun going => absurd rfl going, fun past => ⟨(drained past).1, fun _ => rfl⟩, noticed, nofun⟩

theorem accounted_start (ignored : IgnoredLines) (lines : Stream → List String) (cancelled : Bool) :
    Accounted ignored lines (start lines cancelled) :=
  ⟨[], rfl, fun _ => rfl⟩

variable {cancelled : Bool}

theorem Steps.accounted (steps : Steps ignored (start lines cancelled) state) :
    Accounted ignored lines state := by
  induction steps with
  | refl => exact accounted_start ignored lines cancelled
  | tail _ step ih => exact step.accounted ih

theorem Steps.consistent (steps : Steps ignored (start lines cancelled) state) : Consistent state := by
  induction steps with
  | refl => exact consistent_start lines cancelled
  | tail _ step ih => exact step.consistent ih

/-- The wish to cancel has been seen when these lines had been handed on. -/
def Stopped (handed : List Line) (state : Supervision) : Prop :=
  (state.watch = .stopping ∨ state.watch = .ended .cancelled) ∧ state.handed = handed

theorem Step.stopped {handed : List Line} (step : Step ignored state next)
    (stopped : Stopped handed state) : Stopped handed next := by
  obtain ⟨seen, same⟩ := stopped
  cases step with
  | ask | read | close | exit => exact ⟨seen, same⟩
  | stop | stopFails => exact ⟨.inr rfl, same⟩
  | refuse here | proceed here | launch here | launchFails error here | observe here | receive here
  | drain here | notice here | waitFails error here => simp [here] at seen

theorem Steps.stopped {handed : List Line} (steps : Steps ignored state next)
    (stopped : Stopped handed state) : Stopped handed next := by
  induction steps with
  | refl => exact stopped
  | tail _ step ih => exact step.stopped ih

structure Refused (state : Supervision) : Prop where
  asked : state.cancelled = true
  absent : state.child = .absent
  handed : state.handed = []
  watch : state.watch = .idle ∨ state.watch = .ended .cancelled

theorem Step.refused (step : Step ignored state next) (refused : Refused state) : Refused next := by
  obtain ⟨asked, absent, handed, watch⟩ := refused
  cases step with
  | ask => exact ⟨rfl, absent, handed, watch⟩
  | refuse => exact ⟨asked, absent, handed, .inr rfl⟩
  | proceed here going => simp [going] at asked
  | read stream started | close stream started => exact absurd absent started
  | exit status running => simp [running] at absent
  | launch here | launchFails error here | observe here | receive here | drain here | notice here
  | waitFails error here | stop here | stopFails here => simp [here] at watch

theorem Steps.refused (steps : Steps ignored (start lines true) state) : Refused state := by
  induction steps with
  | refl => exact ⟨rfl, rfl, rfl, .inl rfl⟩
  | tail _ step ih => exact step.refused ih

/-- A run that ends with the program's exit leaves nothing unread and nothing in the queue. -/
theorem Steps.finished {status : ExitStatus} (steps : Steps ignored (start lines cancelled) state)
    (ended : state.watch = .ended (.finished status)) :
    (∀ stream, state.readers stream = ⟨[], false⟩) ∧ state.child = .exited status ∧
      ∃ arrived, state.handed = arrived.filter (fun line => !ignored.holds line.2) ∧
        ∀ stream, ofStream stream arrived = lines stream := by
  obtain ⟨arrived, handed, all⟩ := steps.accounted
  have consistent := steps.consistent
  obtain ⟨seen, past⟩ := consistent.finished status ended
  obtain ⟨empty, shut⟩ := consistent.drained past
  have read : ∀ stream, (state.readers stream).unread = [] := fun stream =>
    consistent.closed (by simp [ended]) stream (shut stream)
  refine ⟨?_, consistent.noticed status seen, arrived, handed, ?_⟩
  · intro stream
    rw [← read stream, ← shut stream]
  · intro stream
    simpa [empty, read stream] using all stream

end Supervision

end GrammarFlow
