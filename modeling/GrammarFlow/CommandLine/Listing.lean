import GrammarFlow.Diagnosis
import GrammarFlow.Text.JsonText

/-!
Diagnoses as data for other programs: a list of objects, whose last five fields are null where a
diagnosis has no place.
-/

namespace GrammarFlow

def Diagnosis.fields (diagnosis : Diagnosis) : List (String × JsonText) :=
  let place (value : PositionSpan → JsonText) : JsonText :=
    (diagnosis.span.map fun span => value span.positions).getD .null
  [("stage", .text diagnosis.stage.name), ("severity", .text diagnosis.severity.name),
   ("kind", .text diagnosis.kind.name), ("message", .text diagnosis.message),
   ("file", place fun span => .text span.source.name),
   ("line", place fun span => .number span.first.line),
   ("column", place fun span => .number span.first.column),
   ("end_line", place fun span => .number span.last.line),
   ("end_column", place fun span => .number span.last.column)]

def listing (diagnoses : List Diagnosis) : String :=
  (JsonText.list (diagnoses.map fun diagnosis => .object diagnosis.fields)).render

end GrammarFlow
