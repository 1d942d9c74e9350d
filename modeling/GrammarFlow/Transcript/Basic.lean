import GrammarFlow.Process.Lines
import GrammarFlow.Transcript.ErrorSpan
import GrammarFlow.Transcript.Event
import GrammarFlow.Transcript.Report
import GrammarFlow.Transcript.TreeDump
import GrammarFlow.Workflow.Artifacts

/-!
The output of a generated parser. Standard output holds results, one to a line behind its tag;
standard error holds syntax errors. Every line becomes exactly one event, which does not depend on
the lines before it, and the events make up the artifacts and the diagnoses of the run.
-/

namespace GrammarFlow

/-- A line that fits no form is reported as it is. -/
def unparsedLine (line : String) : Event :=
  .diagnosis { Diagnosis.error line .textParsed with kind := .unparsedOutputLine }

/-- The text up to the first space, and the text behind it. -/
def splitAtSpace (line : String) : String × String :=
  let chars := line.toList
  (String.ofList (chars.takeWhile (· ≠ ' ')),
    String.ofList ((chars.dropWhile (· ≠ ' ')).drop 1))

/-- The event of a line on standard output. -/
def resultEvent (line : String) : Event :=
  let (head, payload) := splitAtSpace line
  match ResultTag.ofName? head with
  | none => unparsedLine line
  | some .lexerTime => ((Duration.read? payload).map Event.lexerTime).getD (unparsedLine line)
  | some .parserTime => ((Duration.read? payload).map Event.parserTime).getD (unparsedLine line)
  | some .tokens => .tokens payload
  | some .tree => .tree (String.ofList (TreeDump.unescapeBreaks payload.toList))

def checkedResultEvent (line : String) : Text.Checked Event := do
  let (head, payload) := splitAtSpace line
  let timed (event : Duration → Event) : Text.Checked Event := do
    return ((← (Duration.checkedRead? payload).run).map event).getD (unparsedLine line)
  match ResultTag.ofName? head with
  | some .lexerTime => timed .lexerTime
  | some .parserTime => timed .parserTime
  | none | some .tokens | some .tree => return resultEvent line

/-- The located diagnosis of a syntax error, if its line has the right form and its position exists
in the text. -/
def locateError? (text : Option Source) (format : ReportFormat) (line : String) :
    Option Diagnosis := do
  let report ← format.read? line
  let source ← text
  let offset ← source.offsetAt? ⟨← report.line, ← report.column⟩
  return .located (errorSpan source offset report.message) report.message .error .textParsed

def checkedLocateError? (text : Option Source) (format : ReportFormat) (line : String) :
    OptionT Text.Checked Diagnosis := do
  let report ← format.checkedRead? line
  let source ← text.getM
  let offset ← source.checkedOffsetAt? ⟨← report.line.getM, ← report.column.getM⟩
  return .located (errorSpan source offset report.message) report.message .error .textParsed

/-- The event of a line on standard error. -/
def errorEvent (text : Option Source) (format : ReportFormat) (line : String) : Event :=
  ((locateError? text format line).map Event.diagnosis).getD (unparsedLine line)

def checkedErrorEvent (text : Option Source) (format : ReportFormat) (line : String) :
    Text.Checked Event := do
  return ((← (checkedLocateError? text format line).run).map Event.diagnosis).getD (unparsedLine line)

def lineEvent (text : Option Source) (format : ReportFormat) (stream : Stream) (line : String) :
    Event :=
  match stream with
  | .out => resultEvent line
  | .err => errorEvent text format line

def checkedLineEvent (text : Option Source) (format : ReportFormat) (stream : Stream) (line : String) :
    Text.Checked Event :=
  match stream with
  | .out => checkedResultEvent line
  | .err => checkedErrorEvent text format line

/-- A result replaces the earlier one of its tag. -/
def TextParsed.receive (parsed : TextParsed) : Event → TextParsed
  | .lexerTime duration => { parsed with lexerTime := some duration }
  | .parserTime duration => { parsed with parserTime := some duration }
  | .tokens dump => { parsed with tokens := some dump }
  | .tree dump => { parsed with tree := some dump }
  | .diagnosis _ => parsed

/-- The running result of reading a parser's output. -/
structure Transcript where
  format : ReportFormat
  observer : Observer
  artifacts : TextParsed
  diagnoses : List Diagnosis
  /-- What the observer has received. -/
  events : List Event

namespace Transcript

def start (text : Option Source) (format : ReportFormat) (observer : Observer) : Transcript :=
  ⟨format, observer, { (default : TextParsed) with text }, [], []⟩

def receive (output : Transcript) (event : Event) : Transcript :=
  { output with
    artifacts := output.artifacts.receive event
    diagnoses := output.diagnoses ++ event.diagnosis?.toList
    events := output.observer.notify output.events event }

def line (output : Transcript) (stream : Stream) (line : String) : Transcript :=
  output.receive (lineEvent output.artifacts.text output.format stream line)

def lines (output : Transcript) (lines : List (Stream × String)) : Transcript :=
  lines.foldl (fun output (stream, text) => output.line stream text) output

def checkedLine (output : Transcript) (stream : Stream) (line : String) : Text.Checked Transcript := do
  return output.receive (← checkedLineEvent output.artifacts.text output.format stream line)

def checkedLines (output : Transcript) (lines : List (Stream × String)) : Text.Checked Transcript :=
  lines.foldlM (fun output (stream, text) => output.checkedLine stream text) output

end Transcript

end GrammarFlow
