import GrammarFlow.Text.Arithmetic
import GrammarFlow.Text.Span
import GrammarFlow.Workflow.Stage

/-!
What a workflow reports. A diagnosis is one problem, located on a source where that is possible;
only errors make a stage fail. A stage error is the reason why a stage could not do its work.
-/

namespace GrammarFlow

inductive Severity where
  | error
  | warning
deriving DecidableEq, Repr

def Severity.name : Severity → String
  | .error => "Error"
  | .warning => "Warning"

inductive DiagnosisKind where
  /-- The input of a stage is invalid; nothing was started. -/
  | configurationError
  | processSpawnFailure
  /-- A report of a tool about a place in a file. -/
  | childProcessDiagnostic
  /-- A line of a tool that fits no known form, kept as it is. -/
  | unparsedOutputLine
  /-- A tool failed without a reported error. -/
  | abnormalExit
  | grammarCheck
deriving DecidableEq, Repr

namespace DiagnosisKind

def all : List DiagnosisKind :=
  [configurationError, processSpawnFailure, childProcessDiagnostic, unparsedOutputLine,
   abnormalExit, grammarCheck]

def name : DiagnosisKind → String
  | configurationError => "configuration-error"
  | processSpawnFailure => "process-spawn-failure"
  | childProcessDiagnostic => "child-process-diagnostic"
  | unparsedOutputLine => "unparsed-output-line"
  | abnormalExit => "abnormal-exit"
  | grammarCheck => "grammar-check"

def ofName? (name : String) : Option DiagnosisKind := all.find? (·.name = name)

end DiagnosisKind

structure Diagnosis where
  span : Option Span
  message : String
  severity : Severity
  stage : Stage
  kind : DiagnosisKind
deriving DecidableEq

namespace Diagnosis

def located (span : Span) (message : String) (severity : Severity) (stage : Stage) : Diagnosis :=
  ⟨some span, message, severity, stage, .childProcessDiagnostic⟩

def unlocated (message : String) (severity : Severity) (stage : Stage) : Diagnosis :=
  ⟨none, message, severity, stage, .unparsedOutputLine⟩

def error (message : String) (stage : Stage) : Diagnosis := unlocated message .error stage

def isError (diagnosis : Diagnosis) : Bool := diagnosis.severity = .error

/-- Two diagnoses report the same problem whatever kind each is filed under. -/
def sameReport (a b : Diagnosis) : Bool :=
  a.span = b.span && a.message = b.message && a.severity = b.severity && a.stage = b.stage

def render (diagnosis : Diagnosis) : String :=
  let place := match diagnosis.span with
    | some span => "; " ++ span.source.name ++ span.positions.render
    | none => ""
  diagnosis.stage.name ++ "; " ++ diagnosis.severity.name ++ place ++ "; " ++ diagnosis.message

end Diagnosis

def anyError (diagnoses : List Diagnosis) : Bool := diagnoses.any Diagnosis.isError

inductive StageFailure where
  /-- The input or the settings of the stage are invalid. -/
  | configuration (message : String)
  | processSpawn (program message : String)
  /-- A file of the stage could not be read or written, or its tool not be waited for. -/
  | io (message : String)
  | internal (message : String)
deriving DecidableEq, Repr

def StageFailure.message : StageFailure → String
  | .configuration message => "Configuration error: " ++ message
  | .processSpawn program message => "Failed to start '" ++ program ++ "': " ++ message
  | .io message => "I/O error: " ++ message
  | .internal message => "Internal error: " ++ message

/-- Why a stage leaves no state behind. -/
inductive Interruption where
  /-- It was told to stop. -/
  | cancelled
  /-- What a line of its tool asks for cannot be computed. -/
  | exceeded (excess : Text.Excess)
deriving DecidableEq, Repr

def Interruption.message : Interruption → String
  | .cancelled => "operation was cancelled"
  | .exceeded excess => excess.message

end GrammarFlow
