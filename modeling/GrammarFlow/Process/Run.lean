import GrammarFlow.Pattern.Match
import GrammarFlow.Pattern.Read
import GrammarFlow.Process.Invocation
import GrammarFlow.Process.Lines

/-!
Running a program. Its lines are handed on in the order in which they arrive, except those that
match an ignored pattern. The run can be cancelled before it starts and at any point of it; the
program is then stopped and no further line is handed on.
-/

namespace GrammarFlow

/-- Patterns of lines that carry no information. -/
abbrev IgnoredLines := List WrittenPattern

namespace IgnoredLines

def blankLines : IgnoredLines :=
  [⟨"^\\s*$", .sequence [.anchor .textStart, .star true (.one .blank), .anchor .textEnd]⟩]

def holds (ignored : IgnoredLines) (line : String) : Bool :=
  ignored.any fun pattern => pattern.pattern.occursIn line.toList

end IgnoredLines

/-- What happens while a program runs, as its starter sees it. -/
inductive Signal where
  | line (stream : Stream) (text : String)
  /-- Somebody asks for the run to be cancelled. -/
  | cancel
deriving DecidableEq, Repr

/-- What comes of starting a program. -/
inductive Launch where
  | failed (error : FileError)
  /-- The program runs to its end, unless it is stopped, and leaves these files behind. It may be
  that somebody asks for cancellation only after that. -/
  | ran (signals : List Signal) (status : ExitStatus) (files : FileStore) (cancelsLate : Bool)
  /-- The program runs until waiting for its end fails. -/
  | lost (signals : List Signal) (error : FileError) (files : FileStore) (cancelsLate : Bool)

/-- The programs of a system and what they do. -/
abbrev System := Invocation → FileStore → Launch

abbrev Line := Stream × String

/-- How a run ended. -/
inductive RunEnd where
  | cancelled
  | notStarted (error : FileError)
  | finished (status : ExitStatus)
  /-- Its end could not be waited for. -/
  | lost (error : FileError)
deriving DecidableEq, Repr

namespace RunEnd

def message : RunEnd → String
  | cancelled => "process was cancelled"
  | notStarted error => "failed to start process: " ++ error.message
  | finished status => status.render
  | lost error => "failed to wait for process: " ++ error.message

end RunEnd

/-- Hands lines on until the run is cancelled, be it from outside or because `stops` holds of the
lines handed on so far. Tells whether it came to that. -/
def handOn (ignored : IgnoredLines) (stops : List Line → Bool) :
    List Line → List Signal → List Line × Bool
  | handed, [] => (handed, false)
  | handed, .cancel :: _ => (handed, true)
  | handed, .line stream text :: signals =>
    if ignored.holds text then handOn ignored stops handed signals
    else
      let handed := handed ++ [(stream, text)]
      if stops handed then (handed, true) else handOn ignored stops handed signals

structure Run where
  ending : RunEnd
  /-- The lines that were handed on. -/
  lines : List Line
  files : FileStore
  /-- Whether cancellation has been asked for by now. -/
  cancelled : Bool

/-- A run of a program that has been started. It comes to its end unless it is stopped before. -/
def Run.ofSignals (ignored : IgnoredLines) (stops : List Line → Bool) (signals : List Signal) (ending : RunEnd)
    (files : FileStore) (cancelsLate : Bool) : Run :=
  match handOn ignored stops [] signals with
  | (lines, true) => ⟨.cancelled, lines, files, true⟩
  | (lines, false) => ⟨ending, lines, files, cancelsLate⟩

/-- Runs a program. When the run was cancelled before, nothing is started. -/
def run (system : System) (ignored : IgnoredLines) (stops : List Line → Bool) (cancelled : Bool)
    (invocation : Invocation) (files : FileStore) : Run :=
  if cancelled then ⟨.cancelled, [], files, true⟩
  else
    match system invocation files with
    | .failed error => ⟨.notStarted error, [], files, false⟩
    | .ran signals status after cancelsLate =>
      .ofSignals ignored stops signals (.finished status) after cancelsLate
    | .lost signals error after cancelsLate =>
      .ofSignals ignored stops signals (.lost error) after cancelsLate

end GrammarFlow
