import GrammarFlow.Text.Span
import GrammarFlow.Text.Word

/-! The lines of a source, found by their starts. An offset lies on the line whose start is the last
one at or before it; from that line and a column the offset is found again. -/

namespace GrammarFlow

theorem length_lineStartsAfter_le (chars : List Char) (offset : Nat) :
    (lineStartsAfter offset chars).length ≤ chars.length := by
  fun_induction lineStartsAfter offset chars with
  | case1 => exact Nat.le_refl _
  | case2 offset rest ih => simp only [List.length_cons]; omega
  | case3 offset c rest _ _ ih => simp only [List.length_cons]; omega
  | case4 offset c rest _ _ ih => simp only [List.length_cons]; omega

namespace Source

theorem lineCount_le (source : Source) : source.lineCount ≤ source.length + 1 := by
  exact Nat.succ_le_succ (length_lineStartsAfter_le source.chars 0)

theorem line_reached (source : Source) (offset : Nat) :
    ∃ front start beyond, source.lineStarts = front ++ start :: beyond ∧ start ≤ offset ∧
      (∀ next ∈ beyond.head?, offset < next) ∧
      source.positionAt offset = ⟨front.length + 1, offset - start + 1⟩ := by
  let reached := source.lineStarts.takeWhile (· ≤ offset)
  let beyond := source.lineStarts.dropWhile (· ≤ offset)
  have parts : reached ++ beyond = source.lineStarts := List.takeWhile_append_dropWhile
  have first : reached ≠ [] := by simp [reached, lineStarts]
  obtain ⟨front, start, split⟩ : ∃ front start, reached = front ++ [start] :=
    ⟨_, _, (List.dropLast_concat_getLast first).symm⟩
  have before : start ≤ offset := by
    have member : start ∈ reached := by simp [split]
    simpa using List.all_eq_true.mp List.all_takeWhile start member
  refine ⟨front, start, beyond, by simp [← parts, split], before, ?_, ?_⟩
  · intro next found
    have := List.head?_dropWhile_not (· ≤ offset) source.lineStarts
    rw [Option.mem_def.mp found] at this
    simpa using this
  · have position : source.positionAt offset = ⟨reached.length, offset - reached.getLastD 0 + 1⟩ := rfl
    rw [position, split]
    simp

theorem positionAt_line_le (source : Source) (offset : Nat) :
    (source.positionAt offset).line ≤ source.length + 1 := by
  obtain ⟨front, start, beyond, lines, -, -, position⟩ := source.line_reached offset
  have count := source.lineCount_le
  simp only [lineCount, lines, List.length_append, List.length_cons] at count
  simp only [position]
  omega

theorem positionAt_column_le (source : Source) (offset : Nat) :
    (source.positionAt offset).column ≤ offset + 1 := by
  obtain ⟨front, start, beyond, -, -, -, position⟩ := source.line_reached offset
  simp only [position]
  omega

theorem positionAt_column_pos (source : Source) (offset : Nat) :
    0 < (source.positionAt offset).column := Nat.succ_pos _

/-- Every offset up to the end of the text is found again at its position. -/
theorem offsetAt?_positionAt (source : Source) (offset : Nat) (inside : offset ≤ source.length) :
    source.offsetAt? (source.positionAt offset) = some offset := by
  obtain ⟨front, start, beyond, lines, before, after, position⟩ := source.line_reached offset
  have line : source.lineStarts[front.length]? = some start := by simp [lines]
  have next : source.lineStarts[front.length + 1]? = beyond.head? := by
    rw [lines, List.getElem?_append_right (Nat.le_add_right _ 1), Nat.add_sub_cancel_left,
      List.getElem?_cons_succ, List.head?_eq_getElem?]
  have same : start + (offset - start) = offset := Nat.add_sub_cancel' before
  simp only [offsetAt?, position, line, next, same]
  cases found : beyond.head? with
  | none => simp [inside]
  | some following => simp [after following found]

/-- Lines and columns fit into 64 bits. A text in memory is never longer. -/
def Addressable (source : Source) : Prop := source.length + 1 < Text.wordBound

instance (source : Source) : Decidable source.Addressable :=
  inferInstanceAs (Decidable (source.length + 1 < Text.wordBound))

theorem Addressable.line_lt {source : Source} (fits : source.Addressable) (offset : Nat) :
    (source.positionAt offset).line < Text.wordBound :=
  Nat.lt_of_le_of_lt (source.positionAt_line_le offset) fits

theorem Addressable.column_lt {source : Source} (fits : source.Addressable) {offset : Nat}
    (inside : offset ≤ source.length) : (source.positionAt offset).column < Text.wordBound :=
  Nat.lt_of_le_of_lt (Nat.le_trans (source.positionAt_column_le offset) (Nat.succ_le_succ inside)) fits

end Source

end GrammarFlow
