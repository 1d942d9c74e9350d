import GrammarFlow.Process.Run
import GrammarFlow.Transcript.Event
import GrammarFlow.Workflow.State

/-!
What the stages of a workflow act on: the files, the wish to cancel, and the observer. A world
remembers what the observer has received and which programs the system was asked to start.
-/

namespace GrammarFlow

structure World where
  files : FileStore
  /-- Whether the workflow has been told to stop. -/
  cancelled : Bool
  observer : Observer
  /-- What the observer has received. -/
  events : List Event
  launched : List Invocation

namespace World

def start (files : FileStore) (observer : Observer) : World := ⟨files, false, observer, [], []⟩

def notify (world : World) (event : Event) : World :=
  { world with events := world.observer.notify world.events event }

def notifyAll (world : World) (events : List Event) : World := events.foldl notify world

end World

/-- A stage at work: what it has recorded and the world as it stands. -/
structure Progress where
  outcome : Outcome
  world : World

namespace Progress

def start (world : World) : Progress := ⟨.empty, world⟩

/-- Records a diagnosis and tells the observer. -/
def report (progress : Progress) (diagnosis : Diagnosis) : Progress :=
  ⟨progress.outcome.push diagnosis, progress.world.notify (.diagnosis diagnosis)⟩

/-- Records that the stage could not do its work; the observer sees that from the state. -/
def fail (progress : Progress) (stage : Stage) (error : StageFailure) (kind : DiagnosisKind) :
    Progress :=
  { progress with outcome := progress.outcome.fail stage error kind }

/-- An unsuccessful exit is an error even if the program reported none. -/
def noteExit (progress : Progress) (stage : Stage) (program : String) (status : ExitStatus) :
    Progress :=
  if status.succeeded || anyError progress.outcome.diagnoses then progress
  else
    let message := "'" ++ program ++ "' " ++ status.render
    progress.report { Diagnosis.error message stage with kind := .abnormalExit }

end Progress

/-- What a stage's program has shown: the events of its lines, and its exit if that is known. -/
structure ToolRun where
  progress : Progress
  events : List Event
  status : Option ExitStatus

/-- The events of lines, up to a line that exceeds 64 bits. -/
def readEvents (interpret : Stream → String → Text.Checked Event) : List Line → List Event × Option Text.Excess
  | [] => ([], none)
  | (stream, text) :: lines =>
    match interpret stream text with
    | .error excess => ([], some excess)
    | .ok event =>
      let (events, excess) := readEvents interpret lines
      (event :: events, excess)

/-- Runs the program of a stage. Each of its lines becomes one event, read with the files that the
program leaves behind, although they may be read while it runs: what it writes behind a line is taken to be there
already. If its end cannot be waited for, that is recorded in front of what its lines have reported by then. -/
def runProgram (system : System) (stage : Stage) (ignored : IgnoredLines) (invocation : Invocation)
    (interpret : FileStore → Stream → String → Text.Checked Event) (world : World) :
    Except Interruption ToolRun × World :=
  let run := run system ignored (fun _ => false) world.cancelled invocation world.files
  let (events, excess) := readEvents (interpret run.files) run.lines
  let after := ({ world with
    files := run.files
    cancelled := run.cancelled
    launched := if world.cancelled then world.launched else world.launched ++ [invocation] }
    : World).notifyAll events
  let outcome := { Outcome.empty with command := some invocation.commandLine }
  let reported := events.filterMap Event.diagnosis?
  match excess, run.ending with
  | some excess, _ => (.error (.exceeded excess), after)
  | none, .cancelled => (.error .cancelled, after)
  | none, .notStarted error =>
    let outcome := outcome.fail stage (.processSpawn invocation.program error.message)
      .processSpawnFailure
    (.ok ⟨⟨outcome, after⟩, events, none⟩, after)
  | none, .lost error =>
    let outcome := outcome.fail stage (.io error.message) .abnormalExit
    let outcome := { outcome with diagnoses := outcome.diagnoses ++ reported }
    (.ok ⟨⟨outcome, after⟩, events, none⟩, after)
  | none, .finished status =>
    let outcome := { outcome with diagnoses := reported }
    let progress := (Progress.mk outcome after).noteExit stage invocation.program status
    (.ok ⟨progress, events, some status⟩, progress.world)

/-- Work on the files that may fail; what it has written by then stays. -/
abbrev FileWork := ExceptT StageFailure (StateM FileStore)

namespace FileWork

def readable {α : Type} (result : Except FileError α) : FileWork α :=
  match result with
  | .ok a => pure a
  | .error error => throw (.io error.message)

def ask {α : Type} (query : FileStore → Except FileError α) : FileWork α := do
  readable (query (← get))

def change (step : FileStore → Except FileError FileStore) : FileWork Unit := do
  set (← ask step)

end FileWork

/-- Does work on the files of a world. -/
def World.work {α : Type} (world : World) (work : FileWork α) : Except StageFailure α × World :=
  let (result, files) := work.run world.files
  (result, { world with files })

/-- The generated files in a folder, in order. -/
def generatedFiles (target : String → Bool) (files : FileStore) (directory : String) :
    Except FileError (List String) := do
  let paths := (← files.names directory).map (Path.join directory)
  let generated := paths.filter fun path => files.isFile path && target path
  return generated.mergeSort fun a b => !Path.before b a

end GrammarFlow
