import GrammarFlow.Transcript.Basic

/-!
How a transcript grows. A result's line is its tag, a space and the payload, which may hold further
spaces; an error's line gives a diagnosis whatever it says. The event of a line depends on nothing
that earlier lines have changed, so a run over many lines takes up the events of the lines one
after the other.
-/

namespace GrammarFlow

theorem splitAtSpace_append {head : String} (payload : String) (oneWord : ' ' ∉ head.toList) :
    splitAtSpace (head ++ " " ++ payload) = (head, payload) := by
  have word : ∀ c ∈ head.toList, decide (c ≠ ' ') = true := by
    intro c member
    exact decide_eq_true fun (same : c = ' ') => oneWord (same ▸ member)
  have text : (head ++ " " ++ payload).toList = head.toList ++ ' ' :: payload.toList := by simp
  rw [splitAtSpace, text, List.takeWhile_append_of_pos word, List.dropWhile_append_of_pos word]
  simp

namespace ResultTag

theorem splitAtSpace_name (tag : ResultTag) (payload : String) :
    splitAtSpace (tag.name ++ " " ++ payload) = (tag.name, payload) := by
  apply splitAtSpace_append
  cases tag <;> decide

theorem ofName?_name (tag : ResultTag) : ofName? tag.name = some tag := by
  cases tag <;> decide

end ResultTag

theorem resultEvent_tokens (dump : String) : resultEvent ("Tokens " ++ dump) = .tokens dump := by
  have split : splitAtSpace ("Tokens " ++ dump) = (ResultTag.tokens.name, dump) :=
    ResultTag.tokens.splitAtSpace_name dump
  simp only [resultEvent, split, ResultTag.ofName?_name]

theorem resultEvent_tree (dump : String) :
    resultEvent ("Tree " ++ dump) =
      .tree (String.ofList (TreeDump.unescapeBreaks dump.toList)) := by
  have split : splitAtSpace ("Tree " ++ dump) = (ResultTag.tree.name, dump) :=
    ResultTag.tree.splitAtSpace_name dump
  simp only [resultEvent, split, ResultTag.ofName?_name]

namespace TextParsed

theorem receive_text (parsed : TextParsed) (event : Event) :
    (parsed.receive event).text = parsed.text := by
  cases event <;> rfl

end TextParsed

namespace Transcript

theorem foldl_receive (output : Transcript) (events : List Event) :
    events.foldl receive output = { output with
      artifacts := events.foldl TextParsed.receive output.artifacts
      diagnoses := output.diagnoses ++ events.filterMap Event.diagnosis?
      events := events.foldl output.observer.notify output.events } := by
  induction events generalizing output with
  | nil => simp
  | cons event events ih =>
    rw [List.foldl_cons, ih]
    cases event <;> simp [receive, Event.diagnosis?, List.filterMap_cons]

/-- The event of a line can be told before any line has been read: only the text counts, and no
event replaces it. -/
theorem lines_eq_foldl (output : Transcript) (lines : List (Stream × String)) :
    output.lines lines = (lines.map fun (stream, line) =>
      lineEvent output.artifacts.text output.format stream line).foldl receive output := by
  induction lines generalizing output with
  | nil => rfl
  | cons line lines ih =>
    obtain ⟨stream, text⟩ := line
    have same : (output.line stream text).artifacts.text = output.artifacts.text :=
      TextParsed.receive_text ..
    have run : output.lines ((stream, text) :: lines) = (output.line stream text).lines lines := rfl
    rw [run, ih, same]
    rfl

theorem lines_start (text : Option Source) (format : ReportFormat) (observer : Observer)
    (lines : List (Stream × String)) :
    let events := lines.map fun (stream, line) => lineEvent text format stream line
    (start text format observer).lines lines =
      ⟨format, observer, events.foldl TextParsed.receive { (default : TextParsed) with text },
        events.filterMap Event.diagnosis?, events.foldl observer.notify []⟩ := by
  rw [lines_eq_foldl, foldl_receive]
  rfl

end Transcript

end GrammarFlow
