import GrammarFlow.Proofs.BoundedReading
import GrammarFlow.Workflow.Compilation
import GrammarFlow.Workflow.Generation

/-! Lines of the generator and of a compiler, read in 64 bits. A line is diagnosed as it would be without a bound,
unless its column or the place that it names is beyond 64 bits. -/

namespace GrammarFlow

open Text

namespace Generation

/-- The place that a report names in a marked grammar is beyond 64 bits, or its place in the plain one. -/
def Exceeds (marked : List MarkedSource) (report : Report) : Prop :=
  ∃ path file row column, report.file = some path ∧
    marked.find? (·.source.name = Path.shownName path) = some file ∧ report.line = some row ∧
    report.column = some column ∧ (file.source.Exceeds ⟨row, column⟩ ∨
      ∃ offset, file.source.offsetAt? ⟨row, column⟩ = some offset ∧ file.Exceeds offset 1)

theorem exact_checkedLocate? (marked : List MarkedSource) (report : Report) :
    Exact (checkedLocate? marked report).run (Exceeds marked report) (locate? marked report) := by
  unfold checkedLocate? locate?
  refine Exact.congr (Exact.bindOption (Exact.of_option report.file) fun path _ =>
    Exact.bindOption (Exact.of_option _) fun file _ =>
    Exact.bindOption (Exact.of_option report.line) fun row _ =>
    Exact.bindOption (Exact.of_option report.column) fun column _ =>
    Exact.bindOption (file.source.exact_checkedOffsetAt? ⟨row, column⟩) fun offset _ =>
    (file.exact_checkedPlainSpan offset 1).lift) ?_
  simp [Exceeds]

theorem exact_checkedDiagnose (marked : List MarkedSource) (line : String) :
    Exact (checkedDiagnose marked line) (ReportFormat.generatorMessage.Exceeds line ∨
      ∃ report, ReportFormat.generatorMessage.read? line = some report ∧ Exceeds marked report)
      (diagnose marked line) := by
  unfold checkedDiagnose diagnose
  refine Exact.bind (ReportFormat.exact_checkedRead? ..) ?_
  cases ReportFormat.generatorMessage.read? line with
  | none => exact (Exact.of_value (unknown line)).congr (by simp)
  | some report => exact ((exact_checkedLocate? marked report).map (diagnosis report)).congr (by simp)

end Generation

namespace Compilation

def Exceeds (maps : FragmentMaps) (files : FileStore) (directory : String) (report : Report) : Prop :=
  ∃ path source row, report.file = some path ∧
    sourceOf? maps files directory (Path.shownName path) = some source ∧ report.line = some row ∧
    source.Exceeds ⟨row, report.column.getD 1⟩

theorem exact_checkedLocate? (maps : FragmentMaps) (files : FileStore) (directory : String) (report : Report) :
    Exact (checkedLocate? maps files directory report).run (Exceeds maps files directory report)
      (locate? maps files directory report) := by
  unfold checkedLocate? locate?
  refine Exact.congr (Exact.bindOption (Exact.of_option report.file) fun path _ =>
    Exact.bindOption (Exact.of_option _) fun source _ =>
    Exact.bindOption (Exact.of_option report.line) fun row _ =>
    Exact.bindPure (source.exact_checkedOffsetAt? ⟨row, report.column.getD 1⟩) fun offset => rfl) ?_
  simp [Exceeds]

theorem exact_checkedDiagnose (format : ReportFormat) (maps : FragmentMaps) (directory : String) (files : FileStore)
    (line : String) :
    Exact (checkedDiagnose format maps directory files line)
      (format.Exceeds line ∨ ∃ report, format.read? line = some report ∧ Exceeds maps files directory report)
      (diagnose format maps directory files line) := by
  unfold checkedDiagnose diagnose
  refine Exact.bind (format.exact_checkedRead? line) ?_
  cases format.read? line with
  | none => exact (Exact.of_value _).congr (by simp)
  | some report => exact ((exact_checkedLocate? maps files directory report).map (diagnosis report)).congr (by simp)

end Compilation

end GrammarFlow
