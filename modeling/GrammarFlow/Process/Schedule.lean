import GrammarFlow.Process.Run
import Mathlib.Logic.Function.Basic
import Mathlib.Logic.Relation

/-!
How the lines of a program reach its starter. Two readers, one for each stream, put lines into one queue,
and the starter takes them out of it in order. Meanwhile the program may end and somebody may ask for
cancellation. None of them waits for another: a run is any sequence of steps that each of them can take.
-/

namespace GrammarFlow

/-- The lines among these that come from a stream. -/
def ofStream (stream : Stream) (lines : List Line) : List String :=
  (lines.filter (·.1 = stream)).map (·.2)

structure Reader where
  unread : List String
  /-- Whether it may still put lines into the queue. -/
  isOpen : Bool
deriving DecidableEq, Repr

/-- A program, as the system knows it. -/
inductive Child where
  | absent
  | running
  | exited (status : ExitStatus)
deriving DecidableEq, Repr

/-- The signal that no program can ignore. -/
def killSignal : Nat := 9

def Child.kill : Child → Child
  | running => exited (.signaled killSignal false)
  | child => child

/-- What the starter is at. -/
inductive Watch where
  | idle
  /-- Nothing has spoken against starting the program. -/
  | starting
  | watching
  /-- The wish to cancel has been seen, and the program is being stopped. -/
  | stopping
  | ended (ending : RunEnd)
deriving DecidableEq, Repr

structure Supervision where
  watch : Watch
  /-- Whether cancellation has been asked for. -/
  cancelled : Bool
  child : Child
  readers : Stream → Reader
  queue : List Line
  /-- Whether the queue has not been seen to be closed. -/
  streamsOpen : Bool
  /-- The program's end, once it has been seen. -/
  status : Option ExitStatus
  /-- The lines handed on so far. -/
  handed : List Line

namespace Supervision

/-- Before anything has happened. The lines are those that the program will write. -/
def start (lines : Stream → List String) (cancelled : Bool) : Supervision where
  watch := .idle
  cancelled := cancelled
  child := .absent
  readers stream := ⟨lines stream, true⟩
  queue := []
  streamsOpen := true
  status := none
  handed := []

def withReader (state : Supervision) (stream : Stream) (reader : Reader) : Supervision :=
  { state with readers := Function.update state.readers stream reader }

/-- The run is over once both the end of the program and the end of its lines have been seen. -/
def settle (state : Supervision) : Supervision :=
  match state.status, state.streamsOpen with
  | some status, false => { state with watch := .ended (.finished status) }
  | _, _ => state

/-- What can happen next. Which of the possible steps is taken is left open. -/
inductive Step (ignored : IgnoredLines) : Supervision → Supervision → Prop where
  | ask (state : Supervision) : Step ignored state { state with cancelled := true }
  | read {state : Supervision} (stream : Stream) {line : String} {rest : List String}
      (started : state.child ≠ .absent) (reader : state.readers stream = ⟨line :: rest, true⟩) :
      Step ignored state
        { state.withReader stream ⟨rest, true⟩ with queue := state.queue ++ [(stream, line)] }
  | close {state : Supervision} (stream : Stream) (started : state.child ≠ .absent)
      (reader : state.readers stream = ⟨[], true⟩) :
      Step ignored state (state.withReader stream ⟨[], false⟩)
  | exit {state : Supervision} (status : ExitStatus) (running : state.child = .running) :
      Step ignored state { state with child := .exited status }
  | refuse {state : Supervision} (here : state.watch = .idle) (asked : state.cancelled = true) :
      Step ignored state { state with watch := .ended .cancelled }
  | proceed {state : Supervision} (here : state.watch = .idle) (going : state.cancelled = false) :
      Step ignored state { state with watch := .starting }
  | launch {state : Supervision} (here : state.watch = .starting) :
      Step ignored state { state with watch := .watching, child := .running }
  | launchFails {state : Supervision} (error : FileError) (here : state.watch = .starting) :
      Step ignored state { state with watch := .ended (.notStarted error) }
  | observe {state : Supervision} (here : state.watch = .watching) (asked : state.cancelled = true) :
      Step ignored state { state with watch := .stopping }
  /-- Takes the first line out of the queue. An ignored line goes no further. -/
  | receive {state : Supervision} {line : Line} {rest : List Line} (here : state.watch = .watching)
      (listening : state.streamsOpen = true) (queued : state.queue = line :: rest) :
      Step ignored state { state with
        queue := rest
        handed := if ignored.holds line.2 then state.handed else state.handed ++ [line] }
  /-- An empty queue is closed once no reader may put lines into it. -/
  | drain {state : Supervision} (here : state.watch = .watching) (listening : state.streamsOpen = true)
      (empty : state.queue = []) (closed : ∀ stream, (state.readers stream).isOpen = false) :
      Step ignored state (settle { state with streamsOpen := false })
  | notice {state : Supervision} {status : ExitStatus} (here : state.watch = .watching)
      (waiting : state.status = none) (gone : state.child = .exited status) :
      Step ignored state (settle { state with status := some status })
  | waitFails {state : Supervision} (error : FileError) (here : state.watch = .watching)
      (waiting : state.status = none) : Step ignored state { state with watch := .ended (.lost error) }
  /-- The program is killed and the readers are stopped. -/
  | stop {state : Supervision} (here : state.watch = .stopping) :
      Step ignored state { state with
        watch := .ended .cancelled
        child := state.child.kill
        readers := fun stream => { state.readers stream with isOpen := false } }
  /-- Killing may fail; the run has been cancelled all the same. -/
  | stopFails {state : Supervision} (here : state.watch = .stopping) :
      Step ignored state { state with
        watch := .ended .cancelled
        readers := fun stream => { state.readers stream with isOpen := false } }

/-- What can happen in any number of steps. -/
abbrev Steps (ignored : IgnoredLines) : Supervision → Supervision → Prop :=
  Relation.ReflTransGen (Step ignored)

end Supervision

end GrammarFlow
