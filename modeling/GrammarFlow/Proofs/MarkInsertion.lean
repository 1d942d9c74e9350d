import GrammarFlow.Marks.Marked

/-! Marks are put into a copy of a source from left to right. A marking stays balanced: its text is as
long as the characters and marks it holds, so the end of each mark is known from the marks alone. That
makes going back to the plain source exact at every offset. -/

namespace GrammarFlow

/-- Marks to put in, each with the plain offset that it goes in front of. -/
abbrev Insertions := List (Nat × String)

def markedChars (plain : List Char) : Nat → Insertions → List Char
  | copied, [] => plain.drop copied
  | copied, (offset, mark) :: marks =>
    (plain.drop copied).take (offset - copied) ++ mark.toList ++ markedChars plain offset marks

theorem length_between {plain : List Char} {offset : Nat} (inside : offset ≤ plain.length) (copied : Nat) :
    ((plain.drop copied).take (offset - copied)).length = offset - copied := by
  rw [List.length_take, List.length_drop]
  exact Nat.min_eq_left (Nat.sub_le_sub_right inside _)

/-- Where each mark ends in the marked text, behind `earlier` other marks. -/
def markEnds (markLength : Nat) : (earlier : Nat) → Insertions → List Nat
  | _, [] => []
  | earlier, (offset, _) :: marks =>
    (offset + (earlier + 1) * markLength) :: markEnds markLength (earlier + 1) marks

/-- Marks of one length, in order from an offset on and inside the text. -/
def InOrder (textLength markLength : Nat) : Nat → Insertions → Prop
  | _, [] => True
  | copied, (offset, mark) :: marks =>
    copied ≤ offset ∧ offset ≤ textLength ∧ mark.length = markLength ∧
      InOrder textLength markLength offset marks

namespace Marking

def extended (marking : Marking) (offset : Nat) (mark : String) : Marking :=
  let between := (marking.plain.chars.drop marking.copied).take (offset - marking.copied)
  let text := marking.text ++ between ++ mark.toList
  { marking with copied := offset, text, offsets := marking.offsets ++ [text.length] }

structure Accepts (marking : Marking) (offset : Nat) (mark : String) : Prop where
  inside : offset ≤ marking.plain.length
  ordered : marking.copied ≤ offset
  uniform : mark.length = marking.markLength

theorem insert_of_accepts {marking : Marking} {offset : Nat} {mark : String}
    (accepts : marking.Accepts offset mark) :
    marking.insert offset mark = .ok (marking.extended offset mark) := by
  rw [insert, if_neg (Nat.not_lt.mpr accepts.inside), if_neg (Nat.not_lt.mpr accepts.ordered),
    if_neg (fun different => different accepts.uniform), extended]

/-- The text holds the copied characters and a mark for each recorded end, and nothing else. -/
structure Balanced (marking : Marking) : Prop where
  inside : marking.copied ≤ marking.plain.length
  length : marking.text.length = marking.copied + marking.offsets.length * marking.markLength

theorem balanced_start (plain : Source) (markLength : Nat) : (start plain markLength).Balanced :=
  ⟨Nat.zero_le _, by simp [start]⟩

theorem Balanced.extended_length {marking : Marking} {offset : Nat} {mark : String}
    (balanced : marking.Balanced) (accepts : marking.Accepts offset mark) :
    (marking.extended offset mark).text.length =
      offset + (marking.offsets.length + 1) * marking.markLength := by
  have between := length_between accepts.inside marking.copied
  have ordered := accepts.ordered
  simp only [extended, List.length_append, between, balanced.length, String.length_toList, accepts.uniform,
    Nat.succ_mul]
  omega

theorem Balanced.extended {marking : Marking} {offset : Nat} {mark : String} (balanced : marking.Balanced)
    (accepts : marking.Accepts offset mark) : (marking.extended offset mark).Balanced := by
  refine ⟨accepts.inside, ?_⟩
  rw [balanced.extended_length accepts]
  simp [Marking.extended]

def insertAll (marking : Marking) (marks : Insertions) : Except MarkError Marking :=
  marks.foldlM (fun marking (offset, mark) => marking.insert offset mark) marking

theorem insertAll_ok {marking : Marking} {marks : Insertions} (balanced : marking.Balanced)
    (ordered : InOrder marking.plain.length marking.markLength marking.copied marks) :
    ∃ result, marking.insertAll marks = .ok result ∧ result.plain = marking.plain ∧
      result.markLength = marking.markLength ∧
      result.offsets = marking.offsets ++ markEnds marking.markLength marking.offsets.length marks ∧
      result.text ++ result.plain.chars.drop result.copied =
        marking.text ++ markedChars marking.plain.chars marking.copied marks := by
  induction marks generalizing marking with
  | nil => exact ⟨marking, rfl, rfl, rfl, by simp [markEnds], rfl⟩
  | cons first marks ih =>
    obtain ⟨offset, mark⟩ := first
    obtain ⟨after, inside, uniform, others⟩ := ordered
    have accepts : marking.Accepts offset mark := ⟨inside, after, uniform⟩
    obtain ⟨result, run, plain, length, ends, text⟩ := ih (balanced.extended accepts) others
    refine ⟨result, ?_, plain, length, ?_, ?_⟩
    · simp only [insertAll, List.foldlM_cons, insert_of_accepts accepts]
      exact run
    · have here : (marking.extended offset mark).offsets =
          marking.offsets ++ [offset + (marking.offsets.length + 1) * marking.markLength] := by
        rw [← balanced.extended_length accepts, Marking.extended]
      rw [ends, here, markEnds, List.length_append, List.length_singleton, List.append_assoc,
        List.singleton_append]
      rfl
    · rw [text, markedChars]
      simp [Marking.extended]

end Marking

def MarkedSource.withMarks (plain : Source) (markLength : Nat) (marks : Insertions) (name : String) :
    MarkedSource where
  source := ⟨name, String.ofList (markedChars plain.chars 0 marks)⟩
  offsets := markEnds markLength 0 marks
  markLength
  plain

theorem Marking.insertAll_finish {plain : Source} {markLength : Nat} {marks : Insertions}
    (ordered : InOrder plain.length markLength 0 marks) (name : String) :
    ∃ result, (start plain markLength).insertAll marks = .ok result ∧
      result.finish name = .withMarks plain markLength marks name := by
  obtain ⟨result, run, source, length, ends, text⟩ := insertAll_ok (balanced_start plain markLength) ordered
  have text : result.text ++ result.plain.chars.drop result.copied = markedChars plain.chars 0 marks := text
  have ends : result.offsets = markEnds markLength 0 marks := ends
  refine ⟨result, run, ?_⟩
  rw [finish, text, ends, length, source]
  rfl

theorem length_markedChars (plain : List Char) (marks : Insertions) {markLength copied : Nat}
    (inside : copied ≤ plain.length) (ordered : InOrder plain.length markLength copied marks) :
    (markedChars plain copied marks).length = plain.length - copied + marks.length * markLength := by
  induction marks generalizing copied with
  | nil => simp [markedChars]
  | cons first marks ih =>
    obtain ⟨offset, mark⟩ := first
    obtain ⟨after, bounded, uniform, others⟩ := ordered
    simp only [markedChars, List.length_append, List.length_take, List.length_drop, String.length_toList,
      uniform, ih bounded others, List.length_cons, Nat.succ_mul]
    omega

section Counting
variable {textLength markLength : Nat}

theorem InOrder.le_offset {copied : Nat} {marks : Insertions} (ordered : InOrder textLength markLength copied marks) :
    ∀ mark ∈ marks, copied ≤ mark.1 := by
  induction marks generalizing copied with
  | nil => simp
  | cons first marks ih =>
    obtain ⟨after, -, -, others⟩ := ordered
    intro mark member
    rcases List.mem_cons.mp member with rfl | member
    · exact after
    · exact Nat.le_trans after (ih others mark member)

private theorem le_markEnds (earlier : Nat) {marks : Insertions} {bound : Nat}
    (behind : ∀ mark ∈ marks, bound < mark.1) :
    ∀ stop ∈ markEnds markLength earlier marks, bound + earlier * markLength < stop := by
  induction marks generalizing earlier with
  | nil => simp [markEnds]
  | cons first marks ih =>
    intro stop member
    have here := behind first (by simp)
    rcases List.mem_cons.mp member with rfl | member
    · have := Nat.mul_le_mul_right markLength (Nat.le_add_right earlier 1)
      omega
    · have later := ih (earlier + 1) (fun mark member => behind mark (by simp [member])) stop member
      have := Nat.mul_le_mul_right markLength (Nat.le_add_right earlier 1)
      omega

/-- Exactly the marks in front of a plain offset end at or before the place that it has got among
the marks. -/
theorem countP_markEnds {copied : Nat} (earlier offset : Nat) {marks : Insertions}
    (ordered : InOrder textLength markLength copied marks) :
    (markEnds markLength earlier marks).countP
        (· ≤ offset + (earlier + marks.countP (·.1 ≤ offset)) * markLength) =
      marks.countP (·.1 ≤ offset) := by
  induction marks generalizing copied earlier with
  | nil => rfl
  | cons first marks ih =>
    by_cases reached : first.1 ≤ offset
    · have rest := ih (earlier + 1) ordered.2.2.2
      have more : earlier + (marks.countP (·.1 ≤ offset) + 1) = earlier + 1 + marks.countP (·.1 ≤ offset) := by
        omega
      have ends : first.1 + (earlier + 1) * markLength ≤
          offset + (earlier + 1 + marks.countP (·.1 ≤ offset)) * markLength :=
        Nat.add_le_add reached (Nat.mul_le_mul_right _ (Nat.le_add_right _ _))
      rw [List.countP_cons_of_pos (by simpa using reached), markEnds, more,
        List.countP_cons_of_pos (by simpa using ends), rest]
    · have behind : ∀ mark ∈ first :: marks, offset < mark.1 := by
        intro mark member
        rcases List.mem_cons.mp member with rfl | member
        · exact Nat.lt_of_not_le reached
        · exact Nat.lt_of_lt_of_le (Nat.lt_of_not_le reached) (ordered.2.2.2.le_offset mark member)
      have none : (first :: marks).countP (·.1 ≤ offset) = 0 :=
        List.countP_eq_zero.mpr (by simpa using behind)
      rw [none, Nat.add_zero]
      exact List.countP_eq_zero.mpr (by simpa using le_markEnds earlier behind)

end Counting

/-- A plain offset moves by one mark length for each mark in front of it, and is found again. -/
theorem MarkedSource.plainSpan_withMarks {plain : Source} {markLength : Nat} {marks : Insertions}
    (ordered : InOrder plain.length markLength 0 marks) (name : String) (offset length : Nat) :
    (withMarks plain markLength marks name).plainSpan
        (offset + marks.countP (·.1 ≤ offset) * markLength) length =
      plain.clampedSpan offset (offset + length) := by
  have before := countP_markEnds 0 offset ordered
  rw [Nat.zero_add] at before
  simp only [plainSpan, withMarks, before, Nat.add_sub_cancel]

end GrammarFlow
