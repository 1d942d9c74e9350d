import GrammarFlow.Proofs.LineStarts
import GrammarFlow.Proofs.SourceSpans

/-! The lines of a text and what ends them are all of the text. Each line but the last is ended by one
terminator, and no line has a terminator in it. -/

namespace GrammarFlow

/-- What ends a line, each of them once. -/
def terminators : List (List Char) := [['\r', '\n'], ['\r'], ['\n'], ['\u2028'], ['\u2029']]

theorem terminator_of_isTerminator {c : Char} (ends : isTerminator c = true) : [c] ∈ terminators := by
  rcases (isTerminator_iff c).mp ends with rfl | rfl | rfl | rfl <;> decide

theorem isTerminator_iff_mem {c : Char} : isTerminator c = true ↔ c ∈ terminators.flatten := by
  have all : terminators.flatten = ['\r', '\n', '\r', '\n', '\u2028', '\u2029'] := by decide
  rw [isTerminator_iff, all]
  simp only [List.mem_cons, List.not_mem_nil, or_false]
  tauto

/-- How a line that stops at `stop` is ended: by one terminator, behind which the next line starts, or by the
end of the text. -/
inductive EndedBy (stop : Nat) : (next : Option Nat) → (ending back : List Char) → Prop
  | terminator {ending back : List Char} (single : ending ∈ terminators)
      (whole : ending = ['\r'] → back.head? ≠ some '\n') :
      EndedBy stop (some (stop + ending.length)) ending back
  | endOfText : EndedBy stop none [] []

def LineFrom (chars : List Char) (offset start : Nat) (next : Option Nat) : Prop :=
  ∃ front content ending back, chars = front ++ (content ++ (ending ++ back)) ∧ start = offset + front.length ∧
    (∀ c ∈ content, isTerminator c = false) ∧ EndedBy (start + content.length) next ending back

theorem LineFrom.behind {rest : List Char} {offset start : Nat} {next : Option Nat} (more : List Char)
    (line : LineFrom rest (offset + more.length) start next) : LineFrom (more ++ rest) offset start next := by
  obtain ⟨front, content, ending, back, rfl, rfl, oneLine, ended⟩ := line
  refine ⟨more ++ front, content, ending, back, ?_, ?_, oneLine, ended⟩
  · rw [List.append_assoc]
  · rw [List.length_append, Nat.add_assoc]

theorem LineFrom.cons {rest : List Char} {offset : Nat} {next : Option Nat} {c : Char}
    (within : isTerminator c = false) (line : LineFrom rest (offset + 1) (offset + 1) next) :
    LineFrom (c :: rest) offset offset next := by
  obtain ⟨front, content, ending, back, rfl, start, oneLine, ended⟩ := line
  obtain rfl : front = [] := List.eq_nil_of_length_eq_zero (by omega)
  have stop : offset + 1 + content.length = offset + (c :: content).length := by
    rw [List.length_cons, Nat.add_right_comm, Nat.add_assoc]
  exact ⟨[], c :: content, ending, back, rfl, rfl, List.forall_mem_cons.mpr ⟨within, oneLine⟩, stop ▸ ended⟩

theorem lineFrom_of_start (chars : List Char) (offset : Nat) {index start : Nat}
    (found : (offset :: lineStartsAfter offset chars)[index]? = some start) :
    LineFrom chars offset start (offset :: lineStartsAfter offset chars)[index + 1]? := by
  fun_induction lineStartsAfter offset chars generalizing index start with
  | case1 =>
    cases index with
    | zero =>
      cases found
      exact ⟨[], [], [], [], rfl, rfl, by simp, .endOfText⟩
    | succ index => cases found
  | case2 offset rest ih =>
    cases index with
    | zero =>
      cases found
      have single : ['\r', '\n'] ∈ terminators := by decide
      exact ⟨[], [], ['\r', '\n'], rest, rfl, rfl, by simp, .terminator single (by simp)⟩
    | succ index => exact (ih found).behind ['\r', '\n']
  | case3 offset c rest alone ends ih =>
    cases index with
    | zero =>
      cases found
      have notPair : [c] = ['\r'] → rest.head? ≠ some '\n' := by
        intro carriageReturn lineFeed
        obtain ⟨behind, same⟩ := List.head?_eq_some_iff.mp lineFeed
        exact alone behind (List.singleton_inj.mp carriageReturn) same
      exact ⟨[], [], [c], rest, rfl, rfl, by simp, .terminator (terminator_of_isTerminator ends) notPair⟩
    | succ index => exact (ih found).behind [c]
  | case4 offset c rest _ within ih =>
    cases index with
    | zero =>
      cases found
      exact (@ih 0 (offset + 1) rfl).cons (Bool.eq_false_of_not_eq_true within)
    | succ index => exact (@ih (index + 1) start found).behind [c]

theorem EndedBy.isTerminator {stop : Nat} {next : Option Nat} {ending back : List Char}
    (ended : EndedBy stop next ending back) : ∀ c ∈ ending, GrammarFlow.isTerminator c = true := by
  cases ended with
  | terminator single => exact fun c member => isTerminator_iff_mem.mpr (List.mem_flatten_of_mem single member)
  | endOfText => simp

theorem EndedBy.next {stop : Nat} {next : Option Nat} {ending back : List Char}
    (ended : EndedBy stop next ending back) :
    next.getD (stop + ending.length + back.length) = stop + ending.length := by
  cases ended with
  | terminator => rfl
  | endOfText => rfl

namespace Source

/-- The line number `index + 1` of a source: the text in front of it, its own, what ends it, and the text behind. -/
structure HasLine (source : Source) (index : Nat) (front content ending back : List Char) : Prop where
  whole : source.chars = front ++ (content ++ (ending ++ back))
  start : source.lineStarts[index]? = some front.length
  oneLine : ∀ c ∈ content, isTerminator c = false
  ended : EndedBy (front.length + content.length) source.lineStarts[index + 1]? ending back

/-- What stands between a line and the next one, or behind the last line. -/
def lineEnd (source : Source) (line : Nat) : List Char :=
  match source.lineSpan line with
  | none => []
  | some span => (source.chars.drop span.stop).take (source.lineStarts[line]?.getD source.length - span.stop)

theorem exists_line {source : Source} {index : Nat} (there : index < source.lineCount) :
    ∃ front content ending back, source.HasLine index front content ending back := by
  have found : source.lineStarts[index]? = some source.lineStarts[index] := List.getElem?_eq_getElem there
  obtain ⟨front, content, ending, back, whole, start, oneLine, ended⟩ := lineFrom_of_start source.chars 0 found
  rw [Nat.zero_add] at start
  rw [start] at found ended
  exact ⟨front, content, ending, back, whole, found, oneLine, ended⟩

namespace HasLine
variable {source : Source} {index : Nat} {front content ending back : List Char}

theorem length (line : source.HasLine index front content ending back) :
    source.length = front.length + content.length + ending.length + back.length := by
  rw [Source.length, line.whole]
  simp only [List.length_append]
  omega

theorem next (line : source.HasLine index front content ending back) :
    source.lineStarts[index + 1]?.getD source.length = front.length + content.length + ending.length := by
  rw [line.length]
  exact line.ended.next

theorem behind (line : source.HasLine index front content ending back) :
    source.chars.drop front.length = content ++ (ending ++ back) := by
  rw [line.whole, List.drop_left]

theorem upToNext (line : source.HasLine index front content ending back) :
    source.chars.take (front.length + content.length + ending.length) = front ++ content ++ ending ∧
      source.chars.drop (front.length + content.length + ending.length) = back := by
  have width : (front ++ content ++ ending).length = front.length + content.length + ending.length := by
    rw [List.length_append, List.length_append]
  have whole : source.chars = front ++ content ++ ending ++ back := by
    rw [line.whole, List.append_assoc, List.append_assoc]
  rw [whole, ← width]
  exact ⟨List.take_left, List.drop_left⟩

theorem lineSpan (line : source.HasLine index front content ending back) :
    source.lineSpan (index + 1) = some (source.clampedSpan front.length (front.length + content.length)) := by
  have between : front.length + content.length + ending.length - front.length = (content ++ ending).length := by
    rw [List.length_append]
    omega
  have taken : (source.slice front.length (content ++ ending).length).toList = content ++ ending := by
    rw [slice_chars, line.behind, ← List.append_assoc, List.take_left]
  simp only [Source.lineSpan, line.start, line.next, between, taken,
    Text.trimEndChars_append line.oneLine line.ended.isTerminator]

theorem clampedSpan (line : source.HasLine index front content ending back) :
    let span := source.clampedSpan front.length (front.length + content.length)
    span.start = front.length ∧ span.length = content.length := by
  intro span
  have := line.length
  refine ⟨source.clampedSpan_start _ (by omega), ?_⟩
  rw [source.clampedSpan_length (Nat.le_add_right _ _) (by omega), Nat.add_sub_cancel_left]

theorem lineText (line : source.HasLine index front content ending back) :
    source.lineText (index + 1) = some (String.ofList content) := by
  obtain ⟨start, length⟩ := line.clampedSpan
  have text : (source.clampedSpan front.length (front.length + content.length)).text = String.ofList content := by
    have inSource : (source.clampedSpan front.length (front.length + content.length)).source = source := rfl
    rw [← String.toList_inj, String.toList_ofList, Span.text_chars, start, length, inSource, line.behind,
      List.take_left]
  rw [Source.lineText, line.lineSpan, Option.map_some, text]

theorem lineEnd (line : source.HasLine index front content ending back) : source.lineEnd (index + 1) = ending := by
  obtain ⟨start, length⟩ := line.clampedSpan
  have stop : (source.clampedSpan front.length (front.length + content.length)).stop =
      front.length + content.length := by rw [Span.stop, start, length]
  have behind : source.chars.drop (front.length + content.length) = ending ++ back := by
    rw [← List.drop_drop, line.behind, List.drop_left]
  simp only [Source.lineEnd, line.lineSpan, stop, behind, line.next, Nat.add_sub_cancel_left, List.take_left]

end HasLine

theorem lines_upTo (source : Source) (count : Nat) (there : count ≤ source.lineCount) :
    (List.range count).flatMap
        (fun index => ((source.lineText (index + 1)).getD "").toList ++ source.lineEnd (index + 1)) =
      source.chars.take (source.lineStarts[count]?.getD source.length) := by
  induction count with
  | zero => rfl
  | succ count ih =>
    obtain ⟨front, content, ending, back, line⟩ := exists_line there
    have upToHere : source.chars.take front.length = front := by rw [line.whole, List.take_left]
    rw [List.range_succ, List.flatMap_append, ih (Nat.le_of_lt there), line.start, Option.getD_some, upToHere,
      line.next, line.upToNext.1, List.flatMap_singleton, line.lineText, line.lineEnd, Option.getD_some,
      String.toList_ofList, List.append_assoc]

theorem lineSpan_isSome (source : Source) (line : Nat) :
    (source.lineSpan line).isSome ↔ 1 ≤ line ∧ line ≤ source.lineCount := by
  cases line with
  | zero => simp [lineSpan]
  | succ index =>
    by_cases there : index < source.lineCount
    · obtain ⟨front, content, ending, back, line⟩ := exists_line there
      exact iff_of_true (by rw [line.lineSpan]; rfl) ⟨Nat.succ_pos index, there⟩
    · have none : source.lineStarts[index]? = none := List.getElem?_eq_none (Nat.le_of_not_lt there)
      exact iff_of_false (by simp [lineSpan, none]) fun bounds => there bounds.2

theorem lineText_oneLine {source : Source} {line : Nat} {text : String} (found : source.lineText line = some text) :
    ∀ c ∈ text.toList, isTerminator c = false := by
  obtain ⟨span, shown, -⟩ := Option.map_eq_some_iff.mp found
  obtain ⟨first, last⟩ := (source.lineSpan_isSome line).mp (Option.isSome_of_eq_some shown)
  obtain ⟨index, rfl⟩ := Nat.exists_eq_add_of_le' first
  obtain ⟨front, content, ending, back, line⟩ := exists_line last
  rw [line.lineText] at found
  cases found
  rw [String.toList_ofList]
  exact line.oneLine

/-- A line in front of another one is ended by one terminator, and a carriage return by itself is one only where
no line feed follows. -/
theorem lineEnd_single {source : Source} {line next : Nat} (first : 1 ≤ line)
    (following : source.lineStarts[line]? = some next) :
    source.lineEnd line ∈ terminators ∧ (source.lineEnd line = ['\r'] → source.chars[next]? ≠ some '\n') := by
  obtain ⟨index, rfl⟩ := Nat.exists_eq_add_of_le' first
  have there : index + 1 < source.lineCount := (List.getElem?_eq_some_iff.mp following).1
  obtain ⟨front, content, ending, back, line⟩ := exists_line (Nat.lt_of_succ_lt there)
  have behind := line.upToNext.2
  have ended := line.ended
  rw [following] at ended
  rw [line.lineEnd]
  cases ended with
  | terminator single notPair =>
    rw [← List.head?_drop, behind]
    exact ⟨single, notPair⟩

theorem lineEnd_last (source : Source) : source.lineEnd source.lineCount = [] := by
  let index := (lineStartsAfter 0 source.chars).length
  have count : source.lineCount = index + 1 := rfl
  have last : source.lineStarts[index + 1]? = none := List.getElem?_eq_none (Nat.le_refl _)
  obtain ⟨front, content, ending, back, line⟩ := exists_line (show index < source.lineCount from Nat.lt_succ_self _)
  have ended := line.ended
  rw [last] at ended
  rw [count, line.lineEnd]
  cases ended
  rfl

/-- The lines of a text, each with the one terminator that ends it and the last one with none, are the text. -/
theorem lines_partition (source : Source) :
    (∀ line, (source.lineSpan line).isSome ↔ 1 ≤ line ∧ line ≤ source.lineCount) ∧
    (∀ line text, source.lineText line = some text → ∀ c ∈ text.toList, c ∉ terminators.flatten) ∧
    (∀ line, 1 ≤ line → line < source.lineCount → source.lineEnd line ∈ terminators ∧
      (source.lineEnd line = ['\r'] → ∀ next, source.lineStarts[line]? = some next →
        source.chars[next]? ≠ some '\n')) ∧
    source.lineEnd source.lineCount = [] ∧
    (List.range source.lineCount).flatMap
      (fun index => ((source.lineText (index + 1)).getD "").toList ++ source.lineEnd (index + 1)) = source.chars := by
  refine ⟨source.lineSpan_isSome, ?_, ?_, source.lineEnd_last, ?_⟩
  · intro line text found c member among
    have := lineText_oneLine found c member
    rw [isTerminator_iff_mem.mpr among] at this
    cases this
  · intro line first last
    have following : source.lineStarts[line]? = some source.lineStarts[line] := List.getElem?_eq_getElem last
    refine ⟨(lineEnd_single first following).1, fun alone next found => ?_⟩
    exact (lineEnd_single first found).2 alone
  · have none : source.lineStarts[source.lineCount]? = none := List.getElem?_eq_none (Nat.le_refl _)
    rw [source.lines_upTo source.lineCount (Nat.le_refl _), none, Option.getD_none]
    exact List.take_length

/-- Three terminators in a row end three lines, and behind the last one there is an empty line. -/
example : let source : Source := ⟨"t", "a\r\r\n\u2028"⟩
    (List.range 4).map (fun index => (source.lineText (index + 1), source.lineEnd (index + 1))) =
      [(some "a", ['\r']), (some "", ['\r', '\n']), (some "", ['\u2028']), (some "", [])] := by decide +kernel

end Source

end GrammarFlow
