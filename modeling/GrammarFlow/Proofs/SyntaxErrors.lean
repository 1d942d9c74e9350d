import GrammarFlow.Proofs.BoundedReading
import GrammarFlow.Proofs.ReportReading

/-! A syntax error is shown where the generated parser found it. The parser prints a line and a column
of its input; reading them back gives the offset they were made from. -/

namespace GrammarFlow

theorem errorSpan_start {source : Source} {start : Nat} (message : String) (inside : start ≤ source.length) :
    (errorSpan source start message).start = start :=
  source.clampedSpan_start _ inside

namespace Transcript

section
variable {source : Source} {offset : Nat} {message : String} (fits : source.Addressable)
  (inside : offset ≤ source.length) (nonempty : message ≠ "") (oneLine : '\n' ∉ message.toList)
include fits inside nonempty oneLine

theorem read?_positionLine :
    ReportFormat.parserMessage.read? (ReportFormat.parserLine (source.positionAt offset).line
        (rawColumn (source.positionAt offset).column) message) =
      some ⟨none, some (source.positionAt offset).line, some (source.positionAt offset).column, .error, message⟩ := by
  have raw : rawColumn (source.positionAt offset).column + 1 = (source.positionAt offset).column :=
    Nat.succ_pred_eq_of_pos (Nat.succ_pos _)
  have columnFits : rawColumn (source.positionAt offset).column < Text.wordBound :=
    Nat.lt_of_succ_lt (raw ▸ fits.column_lt inside)
  have read := ReportFormat.read?_parserLine (fits.line_lt offset) columnFits nonempty oneLine
  rwa [raw] at read

/-- What is read in the line that a parser writes about an offset of its input. -/
theorem locateError?_parserLine :
    locateError? (some source) .parserMessage (ReportFormat.parserLine (source.positionAt offset).line
        (rawColumn (source.positionAt offset).column) message) =
      some (.located (errorSpan source offset message) message .error .textParsed) := by
  simp [locateError?, read?_positionLine fits inside nonempty oneLine, source.offsetAt?_positionAt offset inside]

theorem not_exceeds_positionLine :
    ¬Line.Exceeds (some source) .parserMessage (.err, ReportFormat.parserLine (source.positionAt offset).line
      (rawColumn (source.positionAt offset).column) message) := by
  have read := read?_positionLine fits inside nonempty oneLine
  rintro (column | ⟨report, _, row, column, other, ⟨⟩, atRow, atColumn, place⟩)
  · exact ReportFormat.not_exceeds read rfl (fits.column_lt inside) column
  · cases read.symm.trans other
    cases atRow
    cases atColumn
    exact fits.not_exceeds (source.offsetAt?_positionAt offset inside) place

end

/-- An error at an offset of the input adds one diagnosis, and its span begins at that offset. -/
theorem syntax_error_at_offset (output : Transcript) {source : Source} {offset : Nat} {message : String}
    (text : output.artifacts.text = some source) (format : output.format = .parserMessage)
    (fits : source.Addressable) (inside : offset ≤ source.length) (nonempty : message ≠ "")
    (oneLine : '\n' ∉ message.toList) :
    let position := source.positionAt offset
    let line := ReportFormat.parserLine position.line (rawColumn position.column) message
    ∃ span : Span, span.source = source ∧ span.start = offset ∧ span.stop ≤ source.length ∧
      output.checkedLine .err line = .ok (output.line .err line) ∧
      (output.line .err line).diagnoses =
        output.diagnoses ++ [.located span message .error .textParsed] := by
  intro position line
  have located : locateError? (some source) .parserMessage line =
      some (.located (errorSpan source offset message) message .error .textParsed) :=
    locateError?_parserLine fits inside nonempty oneLine
  have event : lineEvent output.artifacts.text output.format .err line =
      .diagnosis (.located (errorSpan source offset message) message .error .textParsed) := by
    simp only [lineEvent, errorEvent, text, format, located, Option.map_some, Option.getD_some]
  have held : ¬Line.Exceeds output.artifacts.text output.format (.err, line) := by
    rw [text, format]
    exact not_exceeds_positionLine fits inside nonempty oneLine
  refine ⟨errorSpan source offset message, rfl, errorSpan_start message inside, Span.inside _, ?_, ?_⟩
  · exact (output.exact_checkedLine .err line).within held
  · simp only [Transcript.line, receive, event, Event.diagnosis?, Option.toList_some]

/-- The line feed of a CR LF still lies on the line that it ends. -/
theorem syntax_error_at_line_feed :
    let source : Source := ⟨"input.txt", "ab\r\nc"⟩
    let output := Transcript.start (some source) .parserMessage .listening
    source.Addressable ∧ 3 ≤ source.length ∧ ∃ span : Span, span.source = source ∧ span.start = 3 ∧
      span.stop ≤ source.length ∧
      output.checkedLine .err "line 1:3 missing ID" = .ok (output.line .err "line 1:3 missing ID") ∧
      (output.line .err "line 1:3 missing ID").diagnoses = [.located span "missing ID" .error .textParsed] := by
  intro source output
  have fits : source.Addressable := by decide
  have inside : 3 ≤ source.length := by decide
  have line : ReportFormat.parserLine (source.positionAt 3).line (rawColumn (source.positionAt 3).column)
      "missing ID" = "line 1:3 missing ID" := by decide
  have shown := @syntax_error_at_offset output source 3 "missing ID" rfl rfl fits inside (by decide) (by decide)
  simp only [line] at shown
  exact ⟨fits, inside, shown⟩

end Transcript

end GrammarFlow
