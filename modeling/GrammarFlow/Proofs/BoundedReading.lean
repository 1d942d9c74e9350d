import GrammarFlow.Proofs.BoundedPlaces
import GrammarFlow.Proofs.LineAccounting

/-! Lines of tools, read in 64 bits. A line is read as it would be without a bound, unless the seconds of its clock,
its column or the place that it names is beyond 64 bits. -/

namespace GrammarFlow

open Text

namespace Duration

theorem ClockTime.exact_checkedSeconds (time : ClockTime) :
    Exact time.checkedSeconds (wordBound ≤ time.wholeSeconds) time.wholeSeconds := by
  unfold checkedSeconds
  refine Exact.congr (Exact.bind (exact_times ..) <| Exact.bind (exact_plus ..) <| Exact.bind (exact_times ..) <|
    Exact.bind (exact_plus ..) <| Exact.bind (exact_times ..) (exact_plus ..)) ?_
  unfold wholeSeconds
  omega

def Exceeds (payload : String) : Prop :=
  ∃ time, readTime? (trimChars payload.toList) = some time ∧ wordBound ≤ time.wholeSeconds

theorem exact_checkedReadClock? (text : List Char) : Exact (checkedReadClock? text).run
    (∃ time, readTime? text = some time ∧ wordBound ≤ time.wholeSeconds) (readClock? text) := by
  have read : readClock? text = (readTime? text).bind (some ∘ ClockTime.duration) := Option.map_eq_bind
  rw [read]
  refine Exact.congr (Exact.bindOption (Exact.of_option _) fun time _ => ?_) (or_iff_right id)
  exact (time.exact_checkedSeconds.map _).lift

theorem exact_checkedRead? (payload : String) :
    Exact (checkedRead? payload).run (Exceeds payload) (read? payload) :=
  (exact_checkedReadClock? _).orElse

end Duration

namespace ReportFormat

/-- The column in a line is the greatest number of 64 bits, so that no column counted from 1 stands for it. -/
def Exceeds (format : ReportFormat) (line : String) : Prop :=
  ∃ report raw, format.readRaw? line = some report ∧ report.column = some raw ∧ wordBound ≤ raw + 1

/-- A column that counts from 1 shows that the tool's own column did not exceed 64 bits. -/
theorem not_exceeds {format : ReportFormat} {line : String} {report : Report} {column : Nat}
    (read : format.read? line = some report) (atColumn : report.column = some column)
    (bounded : column + format.columnOrigin < wordBound) : ¬format.Exceeds line := by
  rintro ⟨tool, raw, readRaw, rawColumn, exceeds⟩
  have same : (some raw).bind format.column? = report.column := by
    rw [read?, readRaw, Option.map_some, Option.some.injEq] at read
    rw [← read, ← rawColumn]
  rw [atColumn, Option.bind_some, column?] at same
  split at same
  · cases same
    omega
  · cases same

theorem exact_checkedColumn? (format : ReportFormat) (raw : Nat) :
    Exact (format.checkedColumn? raw).run (wordBound ≤ raw + 1) (format.column? raw) := by
  change Exact _ _ ((some (raw + 1)).bind fun column =>
    if format.columnOrigin ≤ column then some (column - format.columnOrigin) else none)
  unfold checkedColumn?
  refine (exact_plus raw 1).lift.bindPure fun column => ?_
  split <;> rfl

theorem exact_checkedRead? (format : ReportFormat) (line : String) :
    Exact (format.checkedRead? line).run (format.Exceeds line) (format.read? line) := by
  rw [read?, Option.map_eq_bind]
  refine Exact.congr (Exact.bindOption (Exact.of_option _) fun report _ => Exact.bindPure (Exact.lift <|
    Exact.bindOption (Exact.of_option report.column) fun raw _ => format.exact_checkedColumn? raw) fun _ => rfl) ?_
  simp [Exceeds]

end ReportFormat

/-- What a line asks for is beyond 64 bits: the seconds of a clock, the column of a report or the place in the text
that it is about. -/
def Line.Exceeds (text : Option Source) (format : ReportFormat) : Line → Prop
  | (.out, line) => ∃ tag payload, (tag = .lexerTime ∨ tag = .parserTime) ∧ Carries (.out, line) tag payload ∧
      Duration.Exceeds payload
  | (.err, line) => format.Exceeds line ∨ ∃ report source row column, format.read? line = some report ∧
      text = some source ∧ report.line = some row ∧ report.column = some column ∧ source.Exceeds ⟨row, column⟩

theorem ResultTag.ofName?_eq_some_iff {name : String} {tag : ResultTag} : ofName? name = some tag ↔ tag.name = name :=
  ⟨fun found => by simpa using List.find?_some found, fun same => same ▸ ofName?_name tag⟩

theorem exact_checkedResultEvent (text : Option Source) (format : ReportFormat) (line : String) :
    Exact (checkedResultEvent line) (Line.Exceeds text format (.out, line)) (resultEvent line) := by
  obtain ⟨⟨head, payload⟩, split⟩ : ∃ parts, splitAtSpace line = parts := ⟨_, rfl⟩
  have timed (event : Duration → Event) := (Duration.exact_checkedRead? payload).map fun duration =>
    (duration.map event).getD (unparsedLine line)
  have exceeds : Line.Exceeds text format (.out, line) ↔
      ∃ tag, (tag = .lexerTime ∨ tag = .parserTime) ∧ ResultTag.ofName? head = some tag ∧
        Duration.Exceeds payload := by
    constructor
    · rintro ⟨tag, _, timing, ⟨-, carried⟩, exceeds⟩
      obtain ⟨rfl, rfl⟩ := Prod.mk.inj (split.symm.trans carried)
      exact ⟨tag, timing, tag.ofName?_name, exceeds⟩
    · rintro ⟨tag, timing, named, exceeds⟩
      exact ⟨tag, payload, timing, ⟨rfl, by rw [split, ResultTag.ofName?_eq_some_iff.mp named]⟩, exceeds⟩
  simp only [checkedResultEvent, resultEvent, split]
  cases named : ResultTag.ofName? head with
  | none => exact (Exact.of_value _).congr (by simp [exceeds, named])
  | some tag =>
    cases tag with
    | lexerTime => exact (timed .lexerTime).congr (by simp [exceeds, named])
    | parserTime => exact (timed .parserTime).congr (by simp [exceeds, named])
    | tokens | tree => exact (Exact.of_value _).congr (by simp [exceeds, named])

theorem exact_checkedLocateError? (text : Option Source) (format : ReportFormat) (line : String) :
    Exact (checkedLocateError? text format line).run (Line.Exceeds text format (.err, line))
      (locateError? text format line) := by
  unfold checkedLocateError? locateError?
  refine Exact.congr (Exact.bindOption (format.exact_checkedRead? line) fun report _ =>
    Exact.bindOption (Exact.of_option text) fun source _ =>
    Exact.bindOption (Exact.of_option report.line) fun row _ =>
    Exact.bindOption (Exact.of_option report.column) fun column _ =>
    Exact.bindPure (source.exact_checkedOffsetAt? ⟨row, column⟩) fun offset => rfl) ?_
  simp [Line.Exceeds]

theorem exact_checkedErrorEvent (text : Option Source) (format : ReportFormat) (line : String) :
    Exact (checkedErrorEvent text format line) (Line.Exceeds text format (.err, line))
      (errorEvent text format line) :=
  (exact_checkedLocateError? text format line).map fun located =>
    (located.map Event.diagnosis).getD (unparsedLine line)

theorem exact_checkedLineEvent (text : Option Source) (format : ReportFormat) (line : Line) :
    Exact (checkedLineEvent text format line.1 line.2) (line.Exceeds text format)
      (lineEvent text format line.1 line.2) := by
  obtain ⟨stream, line⟩ := line
  cases stream with
  | out => exact exact_checkedResultEvent text format line
  | err => exact exact_checkedErrorEvent text format line

namespace Transcript

theorem exact_checkedLine (output : Transcript) (stream : Stream) (line : String) :
    Exact (output.checkedLine stream line) (Line.Exceeds output.artifacts.text output.format (stream, line))
      (output.line stream line) :=
  (exact_checkedLineEvent output.artifacts.text output.format (stream, line)).map output.receive

theorem exact_checkedLines (output : Transcript) (lines : List Line) :
    Exact (output.checkedLines lines) (∃ line ∈ lines, line.Exceeds output.artifacts.text output.format)
      (output.lines lines) := by
  induction lines generalizing output with
  | nil => exact (Exact.of_value output).congr (by simp)
  | cons line lines ih =>
    have first := output.exact_checkedLine line.1 line.2
    have rest := ih (output.line line.1 line.2)
    have same : (output.line line.1 line.2).artifacts.text = output.artifacts.text := TextParsed.receive_text ..
    have kept : (output.line line.1 line.2).format = output.format := rfl
    rw [same, kept] at rest
    exact Exact.congr (Exact.bind first rest) (by simp)

theorem checkedLines_stopped {output : Transcript} {stream : Stream} {line : String} {excess : Excess}
    (exceeds : checkedLineEvent output.artifacts.text output.format stream line = .error excess)
    (lines : List Line) : output.checkedLines ((stream, line) :: lines) = .error excess := by
  simp only [checkedLines, List.foldlM_cons, checkedLine, exceeds]
  rfl

/-- A transcript of lines stops at one that asks for something beyond 64 bits. Without such a line every line gives
its event, in the order of the lines. The diagnoses are those of the events, each artifact is the last event of its
tag, and both are the same for every observer. -/
theorem every_line_told (text : Option Source) (format : ReportFormat) (lines : List Line) :
    let run (observer : Observer) := (start text format observer).checkedLines lines
    ((∃ line ∈ lines, line.Exceeds text format) → ∀ observer, ∃ excess, run observer = .error excess) ∧
    ((∀ line ∈ lines, ¬line.Exceeds text format) → ∃ output : Observer → Transcript,
      (∀ observer, run observer = .ok (output observer)) ∧ Accounts text format lines output) := by
  intro run
  have exact (observer : Observer) := exact_checkedLines (start text format observer) lines
  refine ⟨fun exceeds observer => (exact observer).beyond exceeds, fun within => ?_⟩
  refine ⟨_, fun observer => (exact observer).within ?_, accounts_lines text format lines⟩
  rintro ⟨line, among, exceeds⟩
  exact within line among exceeds

/-- A column that is the greatest number of 64 bits, and days that have too many seconds. -/
theorem great_numbers_stop_transcript :
    let text : Source := ⟨"input.txt", "abc"⟩
    let start (observer : Observer) := Transcript.start (some text) .parserMessage observer
    ∀ observer,
      (start observer).checkedLines [(.err, "line 1:18446744073709551615 x")] = .error .sum ∧
      (start observer).checkedLines [(.out, "LexerTime 213503982334602.00:00:00")] = .error .product := by
  intro text start observer
  have column : checkedLineEvent (some text) .parserMessage .err "line 1:18446744073709551615 x" = .error .sum := by
    decide +kernel
  have days : checkedLineEvent (some text) .parserMessage .out "LexerTime 213503982334602.00:00:00" =
      .error .product := by decide +kernel
  exact ⟨checkedLines_stopped column [], checkedLines_stopped days []⟩

end Transcript

end GrammarFlow
