import GrammarFlow.Process.Run
import GrammarFlow.Proofs.TranscriptLines
import Mathlib.Data.List.Forall2

/-!
What the lines of a parser are taken for. Each line gives one event, and the event keeps what the line says:
a result has the payload behind its tag, a diagnosis without a place is the line as it is, and one with a
place lies in the text. Artifacts and diagnoses are what the events say, whether anybody listens or not.
-/

namespace GrammarFlow

def Carries (line : Line) (tag : ResultTag) (payload : String) : Prop :=
  line.1 = .out ∧ splitAtSpace line.2 = (tag.name, payload)

/-- What the event of a line keeps of it. -/
def Event.Tells (text : Option Source) (line : Line) : Event → Prop
  | .lexerTime duration =>
    ∃ payload, Carries line .lexerTime payload ∧ Duration.read? payload = some duration
  | .parserTime duration =>
    ∃ payload, Carries line .parserTime payload ∧ Duration.read? payload = some duration
  | .tokens dump => Carries line .tokens dump
  | .tree dump =>
    ∃ payload, Carries line .tree payload ∧
      dump = String.ofList (TreeDump.unescapeBreaks payload.toList)
  | .diagnosis found =>
    match found.span with
    | none => found.kind = .unparsedOutputLine ∧ found.severity = .error ∧ found.message = line.2
    | some span =>
      found.kind = .childProcessDiagnostic ∧ text = some span.source ∧ span.stop ≤ span.source.length

theorem tells_unparsedLine (text : Option Source) (line : Line) :
    (unparsedLine line.2).Tells text line := ⟨rfl, rfl, rfl⟩

theorem tells_resultEvent (text : Option Source) (line : String) :
    (resultEvent line).Tells text (.out, line) := by
  obtain ⟨⟨head, payload⟩, split⟩ : ∃ parts, splitAtSpace line = parts := ⟨_, rfl⟩
  have carries {tag : ResultTag} (named : ResultTag.ofName? head = some tag) :
      Carries (.out, line) tag payload := by
    have name : tag.name = head := by simpa using List.find?_some named
    exact ⟨rfl, by rw [split, name]⟩
  simp only [resultEvent, split]
  cases named : ResultTag.ofName? head with
  | none => exact tells_unparsedLine text (.out, line)
  | some tag =>
    cases tag with
    | lexerTime =>
      cases read : Duration.read? payload with
      | none => exact tells_unparsedLine text (.out, line)
      | some duration => exact ⟨payload, carries named, read⟩
    | parserTime =>
      cases read : Duration.read? payload with
      | none => exact tells_unparsedLine text (.out, line)
      | some duration => exact ⟨payload, carries named, read⟩
    | tokens => exact carries named
    | tree => exact ⟨payload, carries named, rfl⟩

theorem locateError?_inside {text : Option Source} {format : ReportFormat} {line : String}
    {found : Diagnosis} (located : locateError? text format line = some found) :
    ∃ span, found.span = some span ∧ found.kind = .childProcessDiagnostic ∧ text = some span.source ∧
      span.stop ≤ span.source.length := by
  simp only [locateError?, Option.bind_eq_bind, Option.bind_eq_some_iff] at located
  obtain ⟨report, -, source, given, row, -, column, -, offset, -, same⟩ := located
  cases same
  exact ⟨_, rfl, rfl, given, Span.inside _⟩

theorem tells_errorEvent (text : Option Source) (format : ReportFormat) (line : String) :
    (errorEvent text format line).Tells text (.err, line) := by
  unfold errorEvent
  cases located : locateError? text format line with
  | none => exact tells_unparsedLine text (.err, line)
  | some found =>
    obtain ⟨span, place, inside⟩ := locateError?_inside located
    simpa only [Option.map_some, Option.getD_some, Event.Tells, place] using inside

theorem tells_lineEvent (text : Option Source) (format : ReportFormat) (line : Line) :
    (lineEvent text format line.1 line.2).Tells text line := by
  obtain ⟨stream, line⟩ := line
  cases stream with
  | out => exact tells_resultEvent text line
  | err => exact tells_errorEvent text format line

namespace TextParsed

def result? (parsed : TextParsed) : ResultTag → Option Event
  | .lexerTime => parsed.lexerTime.map .lexerTime
  | .parserTime => parsed.parserTime.map .parserTime
  | .tokens => parsed.tokens.map .tokens
  | .tree => parsed.tree.map .tree

/-- An event replaces the result of its own tag and leaves the others alone. -/
theorem result?_receive (parsed : TextParsed) (event : Event) (tag : ResultTag) :
    (parsed.receive event).result? tag =
      if event.tag? = some tag then some event else parsed.result? tag := by
  cases event <;> cases tag <;> simp [receive, result?, Event.tag?]

theorem result?_foldl_receive (parsed : TextParsed) (events : List Event) (tag : ResultTag) :
    (events.foldl receive parsed).result? tag =
      (events.filter (·.tag? = some tag)).getLast?.or (parsed.result? tag) := by
  induction events generalizing parsed with
  | nil => rfl
  | cons event events ih =>
    rw [List.foldl_cons, ih, result?_receive]
    by_cases tagged : event.tag? = some tag
    · rw [if_pos tagged, List.filter_cons_of_pos (by simpa using tagged), List.getLast?_cons]
      cases (events.filter (·.tag? = some tag)).getLast? <;> rfl
    · rw [if_neg tagged, List.filter_cons_of_neg (by simpa using tagged)]

end TextParsed

theorem Observer.foldl_notify_listening (received events : List Event) :
    events.foldl (Observer.notify .listening) received = received ++ events := by
  induction events generalizing received with
  | nil => simp
  | cons event events ih => simp [notify, ih]

namespace Transcript

/-- The events of these lines, and artifacts and diagnoses that are made up from them, for every observer. -/
structure Accounts (text : Option Source) (format : ReportFormat) (lines : List Line)
    (output : Observer → Transcript) : Prop where
  events : List.Forall₂ (fun line event => event = lineEvent text format line.1 line.2 ∧ event.Tells text line)
    lines (output .listening).events
  diagnoses : ∀ observer, (output observer).diagnoses = (output .listening).events.filterMap Event.diagnosis?
  results : ∀ observer tag, (output observer).artifacts.result? tag =
    ((output .listening).events.filter (·.tag? = some tag)).getLast?
  artifacts : ∀ observer, (output observer).artifacts = (output .listening).artifacts

theorem accounts_lines (text : Option Source) (format : ReportFormat) (lines : List Line) :
    Accounts text format lines fun observer => (start text format observer).lines lines := by
  have told : ((start text format .listening).lines lines).events =
      lines.map fun line => lineEvent text format line.1 line.2 := by
    simp only [lines_start, Observer.foldl_notify_listening, List.nil_append]
  refine ⟨?events, ?diagnoses, ?results, ?artifacts⟩
  case events =>
    rw [told, List.forall₂_map_right_iff, List.forall₂_same]
    exact fun line _ => ⟨rfl, tells_lineEvent text format line⟩
  case diagnoses =>
    intro observer
    rw [told]
    exact congrArg Transcript.diagnoses (lines_start text format observer lines)
  case results =>
    intro observer tag
    have empty : ({ (default : TextParsed) with text } : TextParsed).result? tag = none := by
      cases tag <;> rfl
    have made := congrArg Transcript.artifacts (lines_start text format observer lines)
    dsimp only at made
    rw [told, made, TextParsed.result?_foldl_receive, empty, Option.or_none]
  case artifacts =>
    intro observer
    simp only [lines_start]

end Transcript

end GrammarFlow
