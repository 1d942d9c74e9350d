import GrammarFlow.Proofs.BoundedPlaces
import GrammarFlow.Proofs.MarkInsertion
import GrammarFlow.Proofs.SourceSpans

/-! Places in a marked copy are taken back to the plain source. Marks that went in were in order, so an
offset of the plain source, moved by the marks at or in front of it, is found again: behind a mark that
ends there, among marks at one offset, and in front of marks still to come. Only a part whose end is beyond
64 bits is not found, although it would have ended with the plain source. -/

namespace GrammarFlow

/-- The marks in front of a place take no more room than the place is far from the beginning. -/
theorem MarkedSource.exceeds_withMarks {plain : Source} {markLength : Nat} {marks : Insertions}
    (ordered : InOrder plain.length markLength 0 marks) (name : String) {offset : Nat}
    (fits : offset + marks.countP (·.1 ≤ offset) * markLength < Text.wordBound) (length : Nat) :
    (withMarks plain markLength marks name).Exceeds (offset + marks.countP (·.1 ≤ offset) * markLength) length ↔
      Text.wordBound ≤ offset + length := by
  have before := countP_markEnds 0 offset ordered
  rw [Nat.zero_add] at before
  simp only [Exceeds, withMarks, before, Nat.add_sub_cancel]
  exact or_iff_right (Nat.not_le.mpr (Nat.lt_of_le_of_lt (Nat.le_add_left ..) fits))

namespace Marking

theorem accepts_of_insert {marking after : Marking} {offset : Nat} {mark : String}
    (inserted : marking.insert offset mark = .ok after) :
    marking.Accepts offset mark ∧ after = marking.extended offset mark := by
  have accepts : marking.Accepts offset mark := by
    rw [insert] at inserted
    split at inserted
    · cases inserted
    · split at inserted
      · cases inserted
      · split at inserted
        · cases inserted
        next inside ordered uniform =>
          exact ⟨Nat.le_of_not_lt inside, Nat.le_of_not_lt ordered, Decidable.not_not.mp uniform⟩
  rw [insert_of_accepts accepts] at inserted
  exact ⟨accepts, (Except.ok.inj inserted).symm⟩

theorem insertAll_cons {marking result : Marking} {offset : Nat} {mark : String} {marks : Insertions}
    (inserted : marking.insertAll ((offset, mark) :: marks) = .ok result) :
    marking.Accepts offset mark ∧ (marking.extended offset mark).insertAll marks = .ok result := by
  simp only [insertAll, List.foldlM_cons] at inserted
  cases step : marking.insert offset mark with
  | error => rw [step] at inserted; cases inserted
  | ok after =>
    rw [step] at inserted
    obtain ⟨accepts, rfl⟩ := accepts_of_insert step
    exact ⟨accepts, inserted⟩

theorem inOrder_of_insertAll {marking result : Marking} {marks : Insertions}
    (inserted : marking.insertAll marks = .ok result) :
    InOrder marking.plain.length marking.markLength marking.copied marks := by
  induction marks generalizing marking with
  | nil => trivial
  | cons first marks ih =>
    obtain ⟨accepts, others⟩ := insertAll_cons inserted
    exact ⟨accepts.ordered, accepts.inside, accepts.uniform, ih others⟩

theorem finish_of_insertAll {plain : Source} {markLength : Nat} {marks : Insertions} {result : Marking}
    (inserted : (start plain markLength).insertAll marks = .ok result) (name : String) :
    result.finish name = .withMarks plain markLength marks name := by
  obtain ⟨same, run, finished⟩ := insertAll_finish (inOrder_of_insertAll inserted) name
  obtain rfl : same = result := Except.ok.inj (run.symm.trans inserted)
  exact finished

/-- Behind the marks that went in at or in front of it, an offset of the plain source stands for itself. A part
that begins there is cut off at the end of the plain source, if 64 bits hold the end that was asked for. -/
theorem plainSpan_finish {plain : Source} {markLength : Nat} {marks : Insertions} {result : Marking}
    (inserted : (start plain markLength).insertAll marks = .ok result) (name : String) {offset : Nat}
    (inside : offset ≤ plain.length)
    (fits : offset + marks.countP (·.1 ≤ offset) * markLength < Text.wordBound) (length : Nat) :
    let found := (result.finish name).checkedPlainSpan (offset + marks.countP (·.1 ≤ offset) * markLength) length
    (offset + length < Text.wordBound →
      ∃ span, found = .ok span ∧ span.source = plain ∧ span.start = offset ∧
        span.stop = min (offset + length) plain.length) ∧
    (Text.wordBound ≤ offset + length → ∃ excess, found = .error excess) := by
  intro found
  have ordered : InOrder plain.length markLength 0 marks := inOrder_of_insertAll inserted
  have exact : Text.Exact found (Text.wordBound ≤ offset + length) (plain.clampedSpan offset (offset + length)) := by
    rw [← MarkedSource.plainSpan_withMarks ordered name offset length]
    simp only [found, finish_of_insertAll inserted]
    exact (MarkedSource.exact_checkedPlainSpan ..).congr (MarkedSource.exceeds_withMarks ordered name fits length)
  refine ⟨fun held => ⟨_, exact.within (Nat.not_le.mpr held), rfl, ?_, ?_⟩, exact.beyond⟩
  · exact plain.clampedSpan_start (offset + length) inside
  · have first := plain.clampedSpan_start (offset + length) inside
    simp only [Span.stop, Source.clampedSpan] at first ⊢
    omega

/-- Two marks at one offset, a query at the end of the first pair, and a mark behind the query. -/
theorem plainSpan_between_marks :
    let plain : Source := ⟨"G.g4", "aé\nb"⟩
    let marks : Insertions := [(1, "<>"), (1, "[]"), (3, "()")]
    ∃ result span, (start plain 2).insertAll marks = .ok result ∧ 1 ≤ plain.length ∧
      (result.finish "G.g4").checkedPlainSpan (1 + 2 * 2) 7 = .ok span ∧
      span.source = plain ∧ span.start = 1 ∧ span.stop = 4 := by
  intro plain marks
  have ordered : InOrder plain.length 2 0 marks :=
    ⟨by decide, by decide, by decide, by decide, by decide, by decide, by decide, by decide, by decide, trivial⟩
  obtain ⟨result, inserted, -⟩ := insertAll_finish ordered "G.g4"
  have inside : 1 ≤ plain.length := by decide
  have clamped : min (1 + 7) plain.length = 4 := by decide
  obtain ⟨span, found, place⟩ := (plainSpan_finish inserted "G.g4" inside (by decide) 7).1 (by decide)
  rw [clamped] at place
  exact ⟨result, span, inserted, inside, found, place⟩

/-- The part behind a mark is not found when the greatest length is asked for, and is found with its own length. -/
theorem greatest_length_finds_no_part :
    let plain : Source := ⟨"t", "abc"⟩
    ∃ result, (start plain 2).insertAll [(1, "<>")] = .ok result ∧
      (result.finish "t").checkedPlainSpan 3 18446744073709551615 = .error .sum ∧
      (result.finish "t").checkedPlainSpan 3 2 = .ok (plain.clampedSpan 1 3) := by
  intro plain
  have ordered : InOrder plain.length 2 0 [(1, "<>")] := ⟨by decide, by decide, by decide, trivial⟩
  obtain ⟨result, inserted, finished⟩ := insertAll_finish ordered "t"
  exact ⟨result, inserted, finished ▸ by decide +kernel, finished ▸ by decide +kernel⟩

end Marking

end GrammarFlow
