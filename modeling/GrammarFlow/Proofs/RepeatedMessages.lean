import GrammarFlow.Proofs.BoundedReports
import GrammarFlow.Proofs.StrippedFiles
import Mathlib.Data.List.Forall2

/-!
A compiler's message, diagnosed with the maps of the files that had marks and once more without them, when the
marks are gone. It is shown at the same place unless a copied action has taken it to the grammar.
-/

namespace GrammarFlow

namespace Compilation

/-- How a second attempt shows a diagnosis of the first: as it was, or where a copied action has taken it to the
grammar, at the place in the generated file. -/
def ShownAgain (maps : FragmentMaps) (first second : Diagnosis) : Prop :=
  second = first ∨ ∃ name file offset span, maps.lookup name = some file ∧
    file.grammarSpan? offset = some span ∧ first.span = some span ∧
      second = { first with span := some (file.source.clampedSpan offset offset) }

theorem ShownAgain.severity {maps : FragmentMaps} {first second : Diagnosis}
    (again : ShownAgain maps first second) : second.severity = first.severity := by
  obtain rfl | ⟨name, file, offset, span, -, -, -, rfl⟩ := again <;> rfl

theorem ShownAgain.eq_of_nil {first second : Diagnosis} (again : ShownAgain [] first second) :
    first = second := by
  obtain rfl | ⟨name, file, offset, span, known, -⟩ := again
  · rfl
  · cases known

theorem anyError_again {maps : FragmentMaps} {first second : List Diagnosis}
    (again : List.Forall₂ (ShownAgain maps) first second) : anyError second = anyError first := by
  induction again with
  | nil => rfl
  | cons head _ ih =>
    unfold anyError at ih ⊢
    rw [List.any_cons, List.any_cons, ih, Diagnosis.isError, Diagnosis.isError, head.severity]

theorem sourceOf?_again {marks : MarkStyle} {directory : String} {paths : List String} {files : FileStore}
    {maps : FragmentMaps} (mapped : Mapped marks directory paths files maps) (name : String) :
    sourceOf? [] files directory name = sourceOf? maps files directory name := by
  unfold sourceOf?
  cases known : maps.lookup name with
  | none => rfl
  | some file =>
    obtain ⟨called, -, held, -⟩ := mapped name file known
    rw [List.lookup_nil, held, ← called]

def reportedPlace? (maps : FragmentMaps) (files : FileStore) (directory : String) (report : Report) :
    Option (String × Source × Nat) := do
  let name := Path.shownName (← report.file)
  let source ← sourceOf? maps files directory name
  let offset ← source.offsetAt? ⟨← report.line, report.column.getD 1⟩
  return (name, source, offset)

theorem locate?_eq (maps : FragmentMaps) (files : FileStore) (directory : String) (report : Report) :
    locate? maps files directory report =
      (reportedPlace? maps files directory report).map fun (name, source, offset) =>
        ((maps.lookup name).bind (·.grammarSpan? offset)).getD (source.clampedSpan offset offset) := by
  unfold locate? reportedPlace?
  cases report.file with
  | none => rfl
  | some path =>
    simp only [Option.bind_eq_bind, Option.bind_some]
    cases sourceOf? maps files directory (Path.shownName path) with
    | none => rfl
    | some source =>
      simp only [Option.bind_some]
      cases report.line with
      | none => rfl
      | some row =>
        simp only [Option.bind_some]
        cases source.offsetAt? ⟨row, report.column.getD 1⟩ <;> rfl

theorem sourceOf?_of_reportedPlace? {maps : FragmentMaps} {files : FileStore} {directory name : String}
    {report : Report} {source : Source} {offset : Nat}
    (place : reportedPlace? maps files directory report = some (name, source, offset)) :
    sourceOf? maps files directory name = some source := by
  simp only [reportedPlace?, Option.bind_eq_bind, Option.bind_eq_some_iff] at place
  obtain ⟨path, -, found, known, row, -, start, -, same⟩ := place
  cases same
  exact known

variable {marks : MarkStyle} {directory : String} {paths : List String} {files : FileStore}
  {maps : FragmentMaps}

theorem reportedPlace?_again (mapped : Mapped marks directory paths files maps) (report : Report) :
    reportedPlace? [] files directory report = reportedPlace? maps files directory report := by
  unfold reportedPlace?
  simp only [sourceOf?_again mapped]

theorem diagnose_again (mapped : Mapped marks directory paths files maps) (format : ReportFormat)
    (line : String) :
    ShownAgain maps (diagnose format maps directory files line) (diagnose format [] directory files line) := by
  unfold diagnose
  cases format.read? line with
  | none => exact .inl rfl
  | some report =>
    dsimp only
    rw [locate?_eq, locate?_eq, reportedPlace?_again mapped]
    cases place : reportedPlace? maps files directory report with
    | none => exact .inl rfl
    | some found =>
      obtain ⟨name, source, offset⟩ := found
      have known := sourceOf?_of_reportedPlace? place
      cases mapping : maps.lookup name with
      | none => exact .inl (by simp [mapping])
      | some file =>
        have same : source = file.source := by
          rw [sourceOf?, mapping] at known
          exact (Option.some.inj known).symm
        cases inside : file.grammarSpan? offset with
        | none => exact .inl (by simp [mapping, inside])
        | some span =>
          refine .inr ⟨name, file, offset, span, mapping, inside, ?_, ?_⟩
          · simp [mapping, inside, diagnosis, Diagnosis.located]
          · simp [mapping, inside, diagnosis, Diagnosis.located, same]

/-- What 64 bits hold of a message with the maps they hold without. -/
theorem checkedDiagnose_again (mapped : Mapped marks directory paths files maps) {format : ReportFormat}
    {line : String} {found : Diagnosis} (read : checkedDiagnose format maps directory files line = .ok found) :
    checkedDiagnose format [] directory files line = .ok (diagnose format [] directory files line) := by
  have held := (exact_checkedDiagnose ..).not_exceeds read
  refine (exact_checkedDiagnose ..).within ?_
  simpa only [Exceeds, sourceOf?_again mapped] using held

/-- Without maps every place is one in a file of the folder. -/
theorem diagnose_inFile {format : ReportFormat} {line : String} {span : Span}
    (located : (diagnose format [] directory files line).span = some span) :
    files.readText (Path.join directory span.source.name) = .ok span.source.text ∧ span.length = 0 := by
  unfold diagnose at located
  cases read : format.read? line with
  | none =>
    rw [read] at located
    cases located
  | some report =>
    rw [read] at located
    dsimp only at located
    rw [locate?_eq] at located
    cases place : reportedPlace? [] files directory report with
    | none =>
      rw [place] at located
      cases located
    | some found =>
      obtain ⟨name, source, offset⟩ := found
      rw [place] at located
      cases located
      have known := sourceOf?_of_reportedPlace? place
      rw [sourceOf?, List.lookup_nil] at known
      dsimp only at known
      split at known
      next text held =>
        cases known
        refine ⟨held, ?_⟩
        change (Source.clampedSpan ⟨name, text⟩ offset offset).length = 0
        simp only [Source.clampedSpan]
        omega
      next => cases known

end Compilation

end GrammarFlow
