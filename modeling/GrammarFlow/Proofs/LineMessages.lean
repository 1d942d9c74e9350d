import GrammarFlow.Proofs.CompilerErrors
import GrammarFlow.Proofs.FragmentLookup
import GrammarFlow.Proofs.LinePositions

/-! Compiler messages that name a line and no column. They are taken to be about the first place of the line,
blanks included. So a message about an action that stands indented in the generated file is shown there,
and reaches the grammar only from lines that begin inside the action. -/

namespace GrammarFlow

def Source.showsAt (source : Source) (offset : Nat) : Bool :=
  source.chars[offset]?.any fun c => !Text.isBlank c

/-- A line that has something to see, all of it in one copy. -/
structure FragmentMap.LineIn (file : FragmentMap) (line : Nat) (copy : FragmentCopy) : Prop where
  visible : ∃ offset < file.source.length, (file.source.positionAt offset).line = line ∧
    file.source.showsAt offset = true
  inside : ∀ offset < file.source.length, (file.source.positionAt offset).line = line →
    file.source.showsAt offset = true → copy.generated.contains offset = true

instance (file : FragmentMap) (line : Nat) (copy : FragmentCopy) : Decidable (file.LineIn line copy) :=
  decidable_of_iff (_ ∧ _) ⟨fun both => ⟨both.1, both.2⟩, fun shown => ⟨shown.visible, shown.inside⟩⟩

namespace Compilation

/-- A message about a line of an action is located where the line begins: in the copy there, if one is, and
else in the file. It is the copy of the action only when the action has begun by then and no other copy
ends in that place. -/
theorem message_without_column {name text : String} {marks : MarkStyle} {grammar : List Span} {file : FragmentMap}
    {copy : FragmentCopy} {format : ReportFormat} {maps : FragmentMaps} {line path : String} {report : Report}
    {number : Nat} (stripped : FragmentMap.strip name text marks grammar = .ok file)
    (member : copy ∈ file.fragments) (shown : file.LineIn number copy)
    (read : format.read? line = some report) (about : report.file = some path)
    (mapped : maps.lookup (Path.shownName path) = some file)
    (atLine : report.line = some number) (noColumn : report.column = none)
    (directory : String) (files : FileStore) :
    ∃ start span, file.source.offsetAt? ⟨number, 1⟩ = some start ∧
      diagnose format maps directory files line =
        .located span report.message report.severity .parserCompiled ∧
      (file.source.Addressable → ¬format.Exceeds line → checkedDiagnose format maps directory files line =
        .ok (diagnose format maps directory files line)) ∧
      (file.fragmentAt? start = some copy ↔
        copy.generated.start ≤ start ∧ ∀ other ∈ file.fragments, other.generated.stop ≠ start) ∧
      (∀ found, file.fragmentAt? start = some found → span.Within found.grammar) ∧
      (file.fragmentAt? start = none → span = file.source.clampedSpan start start) := by
  obtain ⟨offset, bounded, onLine, visible⟩ := shown.visible
  obtain ⟨start, reached, position⟩ := file.source.lineStart_reached offset
  rw [onLine] at position
  have begins : file.source.offsetAt? ⟨number, 1⟩ = some start := by
    rw [← position]
    exact file.source.offsetAt?_positionAt start (by omega)
  have goesOn : start < copy.generated.stop := by
    have contained := shown.inside offset bounded onLine visible
    simp only [Span.contains, Bool.and_eq_true, decide_eq_true_eq] at contained
    omega
  have place : file.source.offsetAt? ⟨number, report.column.getD 1⟩ = some start := by
    rw [noColumn]
    exact begins
  have located := locate?_mapped files directory about mapped atLine place
  refine ⟨start, (file.grammarSpan? start).getD (file.source.clampedSpan start start), begins, ?_,
    checkedDiagnose_mapped files directory read about mapped atLine place,
    FragmentMap.fragmentAt?_eq_some_iff (FragmentMap.fragments_apart stripped) member goesOn, ?_, ?_⟩
  · simp only [diagnose, read, located, diagnosis]
  · intro found here
    obtain ⟨span, inGrammar, within⟩ := FragmentMap.grammarSpan?_within here
    rw [inGrammar]
    exact within
  · intro nowhere
    rw [FragmentMap.grammarSpan?, nowhere]
    rfl

/-- The form in which a compiler of the default settings reports, with a line and no column. -/
def lineMessage : ReportFormat where
  pattern := .sequence [.anchor .textStart,
    .group "file" (.sequence [.plus true (.one (.complement (.single ':'))), .text ".java"]), .text ":",
    .group "line" .digits, .text ": ", .group "type" (.choice (.text "error") (.text "warning")), .text ": ",
    .group "message" (.plus true (.one .notLineFeed)), .anchor .textEnd]
  columnOrigin := Compiler.usualColumnOrigin

/-- The second line of the action begins inside it. -/
theorem message_about_second_line :
    let source : Source := ⟨"E.g4", "e : \x7bgo();\n  on();\x7d ;"⟩
    let action : Span := ⟨source, 5, 13, by decide⟩
    let text := "  /*#fragment_000*/go();\n    on();/*fragment_000#*/\n"
    ∃ file copy report, FragmentMap.strip "E.java" text default [action] = .ok file ∧ copy ∈ file.fragments ∧
      file.LineIn 2 copy ∧ lineMessage.read? "E.java:2: error: cannot find symbol" = some report ∧
      report.file = some "E.java" ∧ report.line = some 2 ∧ report.column = none ∧
      ∃ span, checkedDiagnose lineMessage [("E.java", file)] "out" default "E.java:2: error: cannot find symbol" =
          .ok (.located span "cannot find symbol" .error .parserCompiled) ∧ span.Within action := by
  intro source action text
  let generated : Source := ⟨"E.java", "  go();\n    on();\n"⟩
  let copy : FragmentCopy := ⟨0, ⟨generated, 2, 15, by decide⟩, action⟩
  let file : FragmentMap := ⟨generated, [copy]⟩
  let report : Report := ⟨some "E.java", some 2, none, .error, "cannot find symbol"⟩
  have stripped : FragmentMap.strip "E.java" text default [action] = .ok file := by decide +kernel
  have shown : file.LineIn 2 copy := by decide +kernel
  have read : lineMessage.read? "E.java:2: error: cannot find symbol" = some report := by decide +kernel
  have path : Path.shownName "E.java" = "E.java" := by decide +kernel
  have mapped : [("E.java", file)].lookup (Path.shownName "E.java") = some file := by simp [path]
  obtain ⟨start, span, begins, diagnosed, computed, held, within, -⟩ := message_without_column stripped
    List.mem_cons_self shown read rfl mapped rfl rfl "out" default
  have place : file.source.offsetAt? ⟨2, 1⟩ = some 8 := by decide +kernel
  obtain rfl : start = 8 := Option.some.inj (begins.symm.trans place)
  have here : file.fragmentAt? 8 = some copy := held.mpr (by decide)
  have columnless : ¬lineMessage.Exceeds "E.java:2: error: cannot find symbol" := by
    rintro ⟨other, raw, found, column, -⟩
    have rawRead : lineMessage.readRaw? "E.java:2: error: cannot find symbol" = some report := by decide +kernel
    cases rawRead.symm.trans found
    cases column
  exact ⟨file, copy, report, stripped, List.mem_cons_self, shown, read, rfl, rfl, rfl, span,
    diagnosed ▸ computed (by decide +kernel) columnless, within copy here⟩

/-- An action on an indented line of its own: the message about it is not shown in the grammar. -/
theorem indented_action_shown_in_file :
    let source : Source := ⟨"E.g4", "e : \x7bgo();\x7d ;"⟩
    let action : Span := ⟨source, 5, 5, by decide⟩
    let text := "  /*#fragment_000*/go();/*fragment_000#*/\n"
    ∃ file copy span, FragmentMap.strip "E.java" text default [action] = .ok file ∧ copy ∈ file.fragments ∧
      file.LineIn 1 copy ∧
      lineMessage.read? "E.java:1: error: cannot find symbol" =
        some ⟨some "E.java", some 1, none, .error, "cannot find symbol"⟩ ∧
      checkedDiagnose lineMessage [("E.java", file)] "out" default "E.java:1: error: cannot find symbol" =
        .ok (.located span "cannot find symbol" .error .parserCompiled) ∧
      span.source = file.source ∧ span.start = 0 ∧ ¬ span.Within copy.grammar := by
  intro source action text
  let generated : Source := ⟨"E.java", "  go();\n"⟩
  let copy : FragmentCopy := ⟨0, ⟨generated, 2, 5, by decide⟩, action⟩
  refine ⟨⟨generated, [copy]⟩, copy, generated.clampedSpan 0 0, ?_, List.mem_cons_self, ?_, ?_, ?_, rfl, rfl,
    ?_⟩
  all_goals decide +kernel

end Compilation

end GrammarFlow
