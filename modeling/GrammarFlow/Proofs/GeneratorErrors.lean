import GrammarFlow.Proofs.BoundedReports
import GrammarFlow.Proofs.MarkRegions
import GrammarFlow.Proofs.PathPlaces
import GrammarFlow.Proofs.PlainOffsets
import GrammarFlow.Proofs.ReportReading

/-! The generator reads marked copies of the grammars, so its reports have positions in the copies. They
are shown at the offsets of the plain grammars that these positions stand for. -/

namespace GrammarFlow

/-- Where an offset of the plain source lies in the marked copy: every mark that goes in at or in front
of it has moved it by one mark length. -/
def MarkStyle.copyOffset (marks : MarkStyle) (fragments : List (Nat × Span)) (offset : Nat) : Nat :=
  let opened := fragments.countP (·.2.start ≤ offset)
  let closed := fragments.countP (·.2.stop ≤ offset)
  offset + (opened + closed) * marks.markLength

theorem countP_fragmentMarks (marks : MarkStyle) (fragments : List (Nat × Span)) (offset : Nat) :
    (marks.fragmentMarks fragments).countP (·.1 ≤ offset) =
      fragments.countP (·.2.start ≤ offset) + fragments.countP (·.2.stop ≤ offset) := by
  induction fragments with
  | nil => rfl
  | cons first fragments ih =>
    rw [MarkStyle.fragmentMarks] at ih ⊢
    simp only [List.flatMap_cons, List.countP_append, ih, List.countP_cons, List.countP_nil]
    omega

namespace Generation
variable {plain : Source} {fragments : List (Nat × Span)}

def markedCopy (marks : MarkStyle) (plain : Source) (fragments : List (Nat × Span)) : MarkedSource :=
  .withMarks plain marks.markLength (marks.fragmentMarks fragments) plain.name

theorem copyOffset_le (marks : MarkStyle) (markable : Markable plain fragments) {offset : Nat}
    (inside : offset ≤ plain.length) :
    marks.copyOffset fragments offset ≤ (markedCopy marks plain fragments).source.length := by
  have length := length_markedChars plain.chars (marks.fragmentMarks fragments) (Nat.zero_le _)
    (markable.inOrder marks)
  have counted : (marks.fragmentMarks fragments).countP (·.1 ≤ offset) ≤
      (marks.fragmentMarks fragments).length := List.countP_le_length
  rw [countP_fragmentMarks] at counted
  have moved := Nat.mul_le_mul_right marks.markLength counted
  rw [markedCopy, MarkedSource.withMarks, Source.length_ofList, length, ← Source.length]
  simp only [MarkStyle.copyOffset]
  omega

theorem plainSpan_copyOffset (marks : MarkStyle) (markable : Markable plain fragments) (offset length : Nat) :
    (markedCopy marks plain fragments).plainSpan (marks.copyOffset fragments offset) length =
      plain.clampedSpan offset (offset + length) := by
  rw [MarkStyle.copyOffset, ← countP_fragmentMarks]
  exact MarkedSource.plainSpan_withMarks (markable.inOrder marks) plain.name offset length

theorem mapM_ofFragments {grammars : List (Source × List (Nat × Span))} (marks : MarkStyle)
    (markable : ∀ grammar ∈ grammars, Markable grammar.1 grammar.2) :
    grammars.mapM (fun grammar => MarkedSource.ofFragments grammar.1 marks grammar.2) =
      .ok (grammars.map fun grammar => markedCopy marks grammar.1 grammar.2) := by
  induction grammars with
  | nil => rfl
  | cons first grammars ih =>
    have here := ofFragments_ok marks (markable first List.mem_cons_self)
    have others := ih fun grammar member => markable grammar (List.mem_cons_of_mem _ member)
    rw [List.mapM_cons, here, others]
    rfl

theorem find?_markedCopy {grammars : List (Source × List (Nat × Span))} (marks : MarkStyle)
    (distinct : (grammars.map fun grammar => grammar.1.name).Nodup) (member : (plain, fragments) ∈ grammars) :
    (grammars.map fun grammar => markedCopy marks grammar.1 grammar.2).find? (·.source.name = plain.name) =
      some (markedCopy marks plain fragments) := by
  induction grammars with
  | nil => cases member
  | cons first grammars ih =>
    obtain ⟨fresh, distinct⟩ := List.nodup_cons.mp distinct
    rcases List.mem_cons.mp member with rfl | member
    · exact List.find?_cons_of_pos (by simp [markedCopy, MarkedSource.withMarks])
    · have other : first.1.name ≠ plain.name := by
        intro same
        exact fresh (List.mem_map.mpr ⟨(plain, fragments), member, same.symm⟩)
      rw [List.map_cons, List.find?_cons_of_neg (by simp [markedCopy, MarkedSource.withMarks, other])]
      exact ih distinct member

theorem locate?_copyPosition {marked : List MarkedSource} {marks : MarkStyle} {offset : Nat}
    (markable : Markable plain fragments) (noSlash : '/' ∉ plain.name.toList)
    (found : marked.find? (·.source.name = plain.name) = some (markedCopy marks plain fragments))
    (inside : offset ≤ plain.length) (severity : Severity) (message : String) :
    let position := (markedCopy marks plain fragments).source.positionAt (marks.copyOffset fragments offset)
    locate? marked ⟨some plain.name, some position.line, some position.column, severity, message⟩ =
      some (plain.clampedSpan offset (offset + 1)) := by
  intro position
  have read : (markedCopy marks plain fragments).source.offsetAt? position =
      some (marks.copyOffset fragments offset) :=
    Source.offsetAt?_positionAt _ _ (copyOffset_le marks markable inside)
  simp only [locate?, Option.bind_eq_bind, Option.bind_some, Option.pure_def, Path.shownName_of_noSlash noSlash,
    found, read, plainSpan_copyOffset marks markable]

/-- Of a copy in memory, a position that stands for an offset of the plain source is found in 64 bits. -/
theorem not_exceeds_copyPosition {marked : List MarkedSource} {marks : MarkStyle} {offset : Nat}
    (markable : Markable plain fragments) (noSlash : '/' ∉ plain.name.toList)
    (found : marked.find? (·.source.name = plain.name) = some (markedCopy marks plain fragments))
    (fits : (markedCopy marks plain fragments).source.Addressable) (inside : offset ≤ plain.length)
    (severity : Severity) (message : String) :
    let position := (markedCopy marks plain fragments).source.positionAt (marks.copyOffset fragments offset)
    ¬Exceeds marked ⟨some plain.name, some position.line, some position.column, severity, message⟩ := by
  intro position
  have within := copyOffset_le marks markable inside
  have place := Source.offsetAt?_positionAt _ _ within
  have start : offset ≤ marks.copyOffset fragments offset := Nat.le_add_right ..
  rw [Source.Addressable] at fits
  rintro ⟨path, file, row, column, about, same, atRow, atColumn, exceeds⟩
  cases about
  cases atRow
  cases atColumn
  rw [Path.shownName_of_noSlash noSlash, found] at same
  cases same
  rcases exceeds with beyond | ⟨_, there, beyond⟩
  · exact Source.Addressable.not_exceeds fits place beyond
  · cases place.symm.trans there
    have moved : offset + (marks.fragmentMarks fragments).countP (·.1 ≤ offset) * marks.markLength =
        marks.copyOffset fragments offset := by
      rw [countP_fragmentMarks, MarkStyle.copyOffset]
    have last := (MarkedSource.exceeds_withMarks (markable.inOrder marks) plain.name (by omega) 1).mp
      (moved ▸ beyond)
    omega

/-- Reports about the marked copies of grammars are located in the plain grammars. -/
theorem report_at_plain_offset {grammars : List (Source × List (Nat × Span))} (marks : MarkStyle)
    (distinct : (grammars.map fun grammar => grammar.1.name).Nodup)
    (named : ∀ grammar ∈ grammars, ReportFormat.FileName grammar.1.name ∧ '/' ∉ grammar.1.name.toList)
    (markable : ∀ grammar ∈ grammars, Markable grammar.1 grammar.2) :
    ∃ marked, grammars.mapM (fun grammar => MarkedSource.ofFragments grammar.1 marks grammar.2) = .ok marked ∧
      ∀ plain fragments, (plain, fragments) ∈ grammars →
        ∃ copy, MarkedSource.ofFragments plain marks fragments = .ok copy ∧
          (copy.source.Addressable → ∀ offset ≤ plain.length, ∀ message : String, message ≠ "" →
            '\n' ∉ message.toList → ∀ (severity : Severity) (number : Nat),
            let position := copy.source.positionAt (marks.copyOffset fragments offset)
            let line := ReportFormat.generatorLine severity number plain.name position.line
              (position.column - 1) message
            ∃ span, checkedDiagnose marked line = .ok (.located span message severity .parserGenerated) ∧
              span.source = plain ∧ span.start = offset ∧ span.length = min 1 (plain.length - offset)) := by
  refine ⟨_, mapM_ofFragments marks markable, ?_⟩
  intro plain fragments member
  have apart : Markable plain fragments := markable _ member
  obtain ⟨name, noSlash⟩ := named _ member
  refine ⟨markedCopy marks plain fragments, ofFragments_ok marks apart, ?_⟩
  intro fits offset inside message nonempty oneLine severity number position line
  have column : position.column - 1 + 1 = position.column :=
    Nat.sub_add_cancel (Source.positionAt_column_pos _ _)
  have columnFits : position.column - 1 < Text.wordBound :=
    Nat.lt_of_le_of_lt (Nat.sub_le _ 1) (fits.column_lt (copyOffset_le marks apart inside))
  have lineFits : position.line < Text.wordBound := fits.line_lt _
  have read := ReportFormat.read?_generatorLine severity number lineFits columnFits name nonempty oneLine
  rw [column] at read
  have found := find?_markedCopy marks distinct member
  have located : locate? (grammars.map fun grammar => markedCopy marks grammar.1 grammar.2)
      ⟨some plain.name, some position.line, some position.column, severity, message⟩ =
        some (plain.clampedSpan offset (offset + 1)) :=
    locate?_copyPosition apart noSlash found inside severity message
  have diagnosed : diagnose (grammars.map fun grammar => markedCopy marks grammar.1 grammar.2) line =
      .located (plain.clampedSpan offset (offset + 1)) message severity .parserGenerated := by
    simp only [diagnose, line, read, located, diagnosis]
  have held : ¬(ReportFormat.generatorMessage.Exceeds line ∨ ∃ report,
      ReportFormat.generatorMessage.read? line = some report ∧
        Exceeds (grammars.map fun grammar => markedCopy marks grammar.1 grammar.2) report) := by
    rintro (beyond | ⟨report, other, beyond⟩)
    · exact ReportFormat.not_exceeds read rfl (fits.column_lt (copyOffset_le marks apart inside)) beyond
    · cases read.symm.trans other
      exact not_exceeds_copyPosition apart noSlash found fits inside severity message beyond
  refine ⟨plain.clampedSpan offset (offset + 1), ?_, rfl, plain.clampedSpan_start _ inside, ?_⟩
  · rw [← diagnosed]
    exact (exact_checkedDiagnose _ line).within held
  · simp only [Source.clampedSpan]
    omega

/-- A warning behind an action of two lines, in the second of two grammars. -/
theorem report_behind_action :
    let lexer : Source := ⟨"L.g4", "A : 'a';"⟩
    let parser : Source := ⟨"P.g4", "a : \x7bé\n\x7d b"⟩
    let action : Span := ⟨parser, 4, 4, by decide⟩
    let marks : MarkStyle := default
    ∃ marked, [(lexer, []), (parser, [(7, action)])].mapM
          (fun grammar => MarkedSource.ofFragments grammar.1 marks grammar.2) = .ok marked ∧
      ∃ span, checkedDiagnose marked "warning(125): P.g4:2:19: implicit token" =
          .ok (.located span "implicit token" .warning .parserGenerated) ∧
        span.source = parser ∧ span.start = 9 ∧ span.length = 1 := by
  intro lexer parser action marks
  have lexerMarkable : Markable lexer [] := ⟨by simp, .nil, by simp⟩
  have parserMarkable : Markable parser [(7, action)] := ⟨by decide, by decide, by decide⟩
  have markable : ∀ grammar ∈ [(lexer, []), (parser, [(7, action)])], Markable grammar.1 grammar.2 := by
    simp [lexerMarkable, parserMarkable]
  have named : ∀ grammar ∈ [(lexer, []), (parser, [(7, action)])],
      ReportFormat.FileName grammar.1.name ∧ '/' ∉ grammar.1.name.toList :=
    List.forall_mem_cons.mpr ⟨⟨⟨by decide, by decide, by decide⟩, by decide⟩,
      List.forall_mem_cons.mpr ⟨⟨⟨by decide, by decide, by decide⟩, by decide⟩, by simp⟩⟩
  obtain ⟨marked, run, reports⟩ := report_at_plain_offset marks (by decide) named markable
  obtain ⟨copy, copied, located⟩ := reports parser [(7, action)] (by simp)
  obtain rfl : copy = markedCopy marks parser [(7, action)] :=
    Except.ok.inj (copied.symm.trans (ofFragments_ok marks parserMarkable))
  have position : (markedCopy marks parser [(7, action)]).source.positionAt
      (marks.copyOffset [(7, action)] 9) = ⟨2, 20⟩ := by decide +kernel
  have fits : (markedCopy marks parser [(7, action)]).source.Addressable := by decide +kernel
  have line : ReportFormat.generatorLine .warning 125 parser.name 2 (20 - 1) "implicit token" =
      "warning(125): P.g4:2:19: implicit token" := by decide
  have width : min 1 (parser.length - 9) = 1 := by decide
  have shown := located fits 9 (by decide) "implicit token" (by decide) (by decide) .warning 125
  simp only [position, line, width] at shown
  exact ⟨marked, run, shown⟩

end Generation

end GrammarFlow
