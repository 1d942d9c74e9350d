import Mathlib.Order.MinMax
import GrammarFlow.Proofs.BoundedPlaces
import GrammarFlow.Proofs.MarkCalls

/-! Places of a marked text, taken back to the plain text, keep their order except out of the inside of a
mark. Only marks that end at or before a place are counted off, so a place inside a mark is shown as far
behind the mark's offset as it is behind the mark's start, and the place behind the mark is shown at that
offset again. -/

namespace GrammarFlow

/-- In a list in order, the entries up to a place are the first ones. -/
theorem lt_countP_iff {stops : List Nat} (sorted : stops.Pairwise (· ≤ ·)) {index stop : Nat}
    (found : stops[index]? = some stop) (place : Nat) : index < stops.countP (· ≤ place) ↔ stop ≤ place := by
  induction stops generalizing index with
  | nil => cases found
  | cons first stops ih =>
    obtain ⟨behind, rest⟩ := List.pairwise_cons.mp sorted
    by_cases reached : first ≤ place
    · rw [List.countP_cons_of_pos (by simpa using reached)]
      cases index with
      | zero =>
        cases found
        simp [reached]
      | succ index => rw [Nat.succ_lt_succ_iff, ih rest found]
    · have missed : ∀ other ∈ first :: stops, ¬ other ≤ place := by
        intro other member
        rcases List.mem_cons.mp member with rfl | member
        · exact reached
        · have := behind other member
          omega
      have none : (first :: stops).countP (· ≤ place) = 0 := List.countP_eq_zero.mpr (by simpa using missed)
      have beyond := missed stop (List.mem_of_getElem? found)
      omega

/-- A place lies in the mark that ends at `stop`, behind the first character of it. -/
def InMark (markLength stop place : Nat) : Prop := stop - markLength < place ∧ place < stop

def marksPassed (markLength : Nat) (marks : Insertions) (place : Nat) : Nat :=
  (markEnds markLength 0 marks).countP (· ≤ place)

/-- Where a place is shown in a plain text that is long enough. -/
def shownOffset (markLength : Nat) (marks : Insertions) (place : Nat) : Nat :=
  place - marksPassed markLength marks place * markLength

theorem MarkedSource.start_plainSpan (plain : Source) (markLength : Nat) (marks : Insertions) (name : String)
    (place length : Nat) : ((withMarks plain markLength marks name).plainSpan place length).start =
      min (shownOffset markLength marks place) plain.length := rfl

section Order
variable {plain : List Char} {markLength copied : Nat} {marks : Insertions}

theorem InOrder.offset_le_length (ordered : InOrder plain.length markLength copied marks) :
    ∀ mark ∈ marks, mark.1 ≤ plain.length := by
  induction marks generalizing copied with
  | nil => simp
  | cons first marks ih =>
    obtain ⟨-, bounded, -, others⟩ := ordered
    exact List.forall_mem_cons.mpr ⟨bounded, ih others⟩

theorem InOrder.offset_le_offset (ordered : InOrder plain.length markLength copied marks) {i j : Nat}
    {a b : Nat × String} (first : marks[i]? = some a) (second : marks[j]? = some b) (upTo : i ≤ j) : a.1 ≤ b.1 := by
  induction marks generalizing copied i j with
  | nil => cases first
  | cons mark marks ih =>
    obtain ⟨-, -, -, others⟩ := ordered
    cases i with
    | succ i =>
      cases j with
      | zero => omega
      | succ j => exact ih others first second (Nat.le_of_succ_le_succ upTo)
    | zero =>
      cases first
      rcases List.mem_cons.mp (List.mem_of_getElem? second) with rfl | later
      · exact Nat.le_refl _
      · exact others.le_offset b later

theorem InOrder.markEnds_sorted (ordered : InOrder plain.length markLength copied marks) (earlier : Nat) :
    (markEnds markLength earlier marks).Pairwise (· ≤ ·) := by
  induction marks generalizing copied earlier with
  | nil => exact .nil
  | cons first marks ih =>
    obtain ⟨-, -, -, others⟩ := ordered
    refine .cons ?_ (ih others (earlier + 1))
    intro stop member
    have := markEnds_behind others (earlier + 1) stop member
    have := Nat.mul_le_mul_right markLength (Nat.le_add_right (earlier + 1) 1)
    omega

theorem markEnd_of_mark {index : Nat} {mark : Nat × String} (found : marks[index]? = some mark) (markLength : Nat) :
    (markEnds markLength 0 marks)[index]? = some (mark.1 + (index + 1) * markLength) := by
  rw [getElem?_markEnds, found, Nat.zero_add]
  rfl

theorem marksPassed_le (markLength : Nat) (marks : Insertions) (place : Nat) :
    marksPassed markLength marks place ≤ marks.length := by
  rw [← length_markEnds markLength 0 marks]
  exact List.countP_le_length

theorem lt_marksPassed_iff (ordered : InOrder plain.length markLength 0 marks) {index : Nat} {mark : Nat × String}
    (found : marks[index]? = some mark) (place : Nat) :
    index < marksPassed markLength marks place ↔ mark.1 + (index + 1) * markLength ≤ place :=
  lt_countP_iff (ordered.markEnds_sorted 0) (markEnd_of_mark found markLength) place

/-- The marks passed at a place take no more room than there is in front of it. -/
theorem marksPassed_mul_le (ordered : InOrder plain.length markLength 0 marks) (place : Nat) :
    marksPassed markLength marks place * markLength ≤ place := by
  rcases Nat.eq_zero_or_pos (marksPassed markLength marks place) with unmarked | marked
  · rw [unmarked, Nat.zero_mul]
    exact Nat.zero_le place
  · obtain ⟨last, count⟩ := Nat.exists_eq_add_one.mpr marked
    have present := marksPassed_le markLength marks place
    have found : marks[last]? = some marks[last] := List.getElem?_eq_getElem (by omega)
    have ended := (lt_marksPassed_iff ordered found place).mp (by omega)
    rw [count]
    exact Nat.le_trans (Nat.le_add_left ..) ended

/-- From a place that is inside no mark that ends by the later place, the order is kept: the first mark in
between begins at or behind the earlier place, and the last one ends at or before the later place. -/
theorem shownOffset_le (ordered : InOrder plain.length markLength 0 marks) {p q : Nat} (forward : p ≤ q)
    (clear : ∀ stop ∈ markEnds markLength 0 marks, InMark markLength stop p → q < stop) :
    shownOffset markLength marks p ≤ shownOffset markLength marks q := by
  simp only [shownOffset]
  rcases Nat.lt_or_ge (marksPassed markLength marks p) (marksPassed markLength marks q) with more | same
  · have present := marksPassed_le markLength marks q
    obtain ⟨last, count⟩ : ∃ last, marksPassed markLength marks q = last + 1 := Nat.exists_eq_add_one.mpr (by omega)
    have foundFirst : marks[marksPassed markLength marks p]? = some marks[marksPassed markLength marks p] :=
      List.getElem?_eq_getElem _
    have foundLast : marks[last]? = some marks[last] := List.getElem?_eq_getElem (by omega)
    have between := ordered.offset_le_offset foundFirst foundLast (by omega)
    have firstEnded := (lt_marksPassed_iff ordered foundFirst q).mp more
    have lastEnded := (lt_marksPassed_iff ordered foundLast q).mp (by omega)
    have notYet := mt (lt_marksPassed_iff ordered foundFirst p).mpr (Nat.lt_irrefl _)
    have outside : ¬ InMark markLength _ p := fun within =>
      Nat.not_lt.mpr firstEnded (clear _ (List.mem_of_getElem? (markEnd_of_mark foundFirst markLength)) within)
    simp only [InMark] at outside
    rw [count]
    rw [Nat.succ_mul] at notYet outside
    omega
  · have := Nat.mul_le_mul_right markLength same
    omega

/-- The marks passed at a place are those up to the first one that ends behind it. -/
theorem marksPassed_eq (ordered : InOrder plain.length markLength 0 marks) {count place : Nat}
    (bounded : count ≤ marks.length)
    (reached : ∀ index mark, index < count → marks[index]? = some mark → mark.1 + (index + 1) * markLength ≤ place)
    (missed : ∀ mark, marks[count]? = some mark → place < mark.1 + (count + 1) * markLength) :
    marksPassed markLength marks place = count := by
  apply Nat.le_antisymm
  · by_contra more
    have present := marksPassed_le markLength marks place
    have found : marks[count]? = some marks[count] := List.getElem?_eq_getElem (by omega)
    have ended := (lt_marksPassed_iff ordered found place).mp (by omega)
    exact Nat.not_lt.mpr ended (missed _ found)
  · by_contra fewer
    have found : marks[marksPassed markLength marks place]? = some marks[marksPassed markLength marks place] :=
      List.getElem?_eq_getElem (by omega)
    have ended := reached _ _ (by omega) found
    exact Nat.lt_irrefl _ ((lt_marksPassed_iff ordered found place).mpr ended)

theorem markEnd_le_start (ordered : InOrder plain.length markLength 0 marks) {i j : Nat} {a b : Nat × String}
    (first : marks[i]? = some a) (second : marks[j]? = some b) (before : i < j) :
    a.1 + (i + 1) * markLength ≤ b.1 + j * markLength :=
  Nat.add_le_add (ordered.offset_le_offset first second (Nat.le_of_lt before)) (Nat.mul_le_mul_right _ before)

theorem shownOffset_inMark (ordered : InOrder plain.length markLength 0 marks) {index : Nat} {mark : Nat × String}
    (found : marks[index]? = some mark) {behind : Nat} (inside : behind < markLength) :
    shownOffset markLength marks (mark.1 + index * markLength + behind) = mark.1 + behind := by
  have passed : marksPassed markLength marks (mark.1 + index * markLength + behind) = index := by
    apply marksPassed_eq ordered (Nat.le_of_lt (List.getElem?_eq_some_iff.mp found).1)
    · intro earlier other before there
      exact Nat.le_add_right_of_le (markEnd_le_start ordered there found before)
    · intro other there
      cases found.symm.trans there
      rw [Nat.succ_mul]
      omega
  rw [shownOffset, passed]
  omega

theorem shownOffset_markEnd (ordered : InOrder plain.length markLength 0 marks) {index : Nat} {mark : Nat × String}
    (found : marks[index]? = some mark) :
    shownOffset markLength marks (mark.1 + (index + 1) * markLength) = mark.1 := by
  rcases Nat.eq_zero_or_pos markLength with rfl | long
  · simp [shownOffset]
  · have passed : marksPassed markLength marks (mark.1 + (index + 1) * markLength) = index + 1 := by
      apply marksPassed_eq ordered (List.getElem?_eq_some_iff.mp found).1
      · intro earlier other before there
        exact Nat.add_le_add (ordered.offset_le_offset there found (Nat.le_of_lt_succ before))
          (Nat.mul_le_mul_right _ before)
      · intro other there
        have next := markEnd_le_start ordered found there (Nat.lt_add_one index)
        calc
          mark.1 + (index + 1) * markLength ≤ other.1 + (index + 1) * markLength := next
          _ < other.1 + (index + 1 + 1) * markLength :=
            Nat.add_lt_add_left (Nat.mul_lt_mul_of_pos_right (Nat.lt_succ_self _) long) _
    rw [shownOffset, passed]
    omega

theorem mark_of_markEnd {index stop : Nat} (found : (markEnds markLength 0 marks)[index]? = some stop) :
    ∃ mark, marks[index]? = some mark ∧ stop = mark.1 + (index + 1) * markLength := by
  rw [getElem?_markEnds] at found
  obtain ⟨mark, there, rfl⟩ := Option.map_eq_some_iff.mp found
  exact ⟨mark, there, by rw [Nat.zero_add]⟩

theorem not_inMark_markStart (ordered : InOrder plain.length markLength 0 marks) {index : Nat}
    {mark : Nat × String} (found : marks[index]? = some mark) :
    ∀ stop ∈ markEnds markLength 0 marks, ¬ InMark markLength stop (mark.1 + index * markLength) := by
  rintro stop member ⟨behindStart, beforeStop⟩
  obtain ⟨other, there⟩ := List.mem_iff_getElem?.mp member
  obtain ⟨otherMark, otherFound, rfl⟩ := mark_of_markEnd there
  rcases Nat.lt_or_ge other index with before | notBefore
  · exact Nat.not_lt.mpr (markEnd_le_start ordered otherFound found before) beforeStop
  · have := ordered.offset_le_offset found otherFound notBefore
    have := Nat.mul_le_mul_right markLength notBefore
    rw [Nat.succ_mul] at behindStart
    omega

/-- From a place inside a mark the order is kept only where no plain text is left behind the mark. -/
theorem order_kept_iff (ordered : InOrder plain.length markLength 0 marks) (p : Nat) :
    (∀ q, p ≤ q → min (shownOffset markLength marks p) plain.length ≤
        min (shownOffset markLength marks q) plain.length) ↔
      ∀ index mark, marks[index]? = some mark → InMark markLength (mark.1 + (index + 1) * markLength) p →
        mark.1 = plain.length := by
  constructor
  · intro kept index mark found ⟨behindStart, beforeStop⟩
    have bounded := ordered.offset_le_length _ (List.mem_of_getElem? found)
    have atStop := kept _ (Nat.le_of_lt beforeStop)
    rw [shownOffset_markEnd ordered found] at atStop
    rw [Nat.succ_mul] at behindStart beforeStop
    obtain ⟨behind, rfl⟩ := Nat.exists_eq_add_of_le (show mark.1 + index * markLength ≤ p by omega)
    rw [shownOffset_inMark ordered found (by omega)] at atStop
    omega
  · intro atEnd q forward
    by_cases clear : ∀ stop ∈ markEnds markLength 0 marks, ¬ InMark markLength stop p
    · exact min_le_min_right _ (shownOffset_le ordered forward fun stop member within =>
        absurd within (clear stop member))
    · obtain ⟨stop, member, within⟩ : ∃ stop ∈ markEnds markLength 0 marks, InMark markLength stop p := by
        simpa using clear
      obtain ⟨index, there⟩ := List.mem_iff_getElem?.mp member
      obtain ⟨mark, found, rfl⟩ := mark_of_markEnd there
      have last := atEnd index mark found within
      obtain ⟨behindStart, beforeStop⟩ := within
      rw [Nat.succ_mul] at behindStart beforeStop
      have fromStart := shownOffset_le ordered (show mark.1 + index * markLength ≤ q by omega)
        fun stop member within => absurd within (not_inMark_markStart ordered found stop member)
      have shown := shownOffset_inMark ordered found (show 0 < markLength by omega)
      rw [Nat.add_zero, Nat.add_zero] at shown
      omega

/-- All that is shown of a place behind the marked text is the end of the plain text. -/
theorem length_le_shownOffset {place : Nat} (beyond : plain.length + marks.length * markLength ≤ place) :
    plain.length ≤ shownOffset markLength marks place := by
  have all := Nat.mul_le_mul_right markLength (marksPassed_le markLength marks place)
  unfold shownOffset
  omega

end Order

namespace MarkedSource
variable {plain : Source} {markLength : Nat} {marks : Insertions} {name : String} {place length : Nat}

theorem exact_withMarks (ordered : InOrder plain.length markLength 0 marks) (name : String)
    (fits : place < Text.wordBound) (length : Nat) :
    Text.Exact ((withMarks plain markLength marks name).checkedPlainSpan place length)
      (Text.wordBound ≤ shownOffset markLength marks place + length)
      ((withMarks plain markLength marks name).plainSpan place length) := by
  refine (exact_checkedPlainSpan ..).congr (or_iff_right (Nat.not_le.mpr ?_))
  exact Nat.lt_of_le_of_lt (marksPassed_mul_le ordered place) fits

theorem start_of_checkedPlainSpan {span : Span}
    (found : (withMarks plain markLength marks name).checkedPlainSpan place length = .ok span) :
    span.start = min (shownOffset markLength marks place) plain.length := by
  rw [(exact_checkedPlainSpan _ place length).eq_of_ok found, start_plainSpan]

theorem exists_checkedPlainSpan (ordered : InOrder plain.length markLength 0 marks) (name : String)
    (fits : place < Text.wordBound) (held : shownOffset markLength marks place + length < Text.wordBound) :
    ∃ span, (withMarks plain markLength marks name).checkedPlainSpan place length = .ok span :=
  ⟨_, (exact_withMarks ordered name fits length).within (Nat.not_le.mpr held)⟩

/-- In a text in memory the spans at two places tell which of the places is shown first. -/
theorem kept_iff (ordered : InOrder plain.length markLength 0 marks)
    (inMemory : (withMarks plain markLength marks name).source.length < Text.wordBound) {p : Nat}
    (fits : p < Text.wordBound) :
    (∀ q, p ≤ q → ∀ length length' first last,
      (withMarks plain markLength marks name).checkedPlainSpan p length = .ok first →
        (withMarks plain markLength marks name).checkedPlainSpan q length' = .ok last → first.start ≤ last.start) ↔
    ∀ q, p ≤ q →
      min (shownOffset markLength marks p) plain.length ≤ min (shownOffset markLength marks q) plain.length := by
  constructor
  · intro kept q forward
    rcases Nat.lt_or_ge q (withMarks plain markLength marks name).source.length with within | beyond
    · have shown (place : Nat) (fits : place < Text.wordBound) :
          shownOffset markLength marks place + 0 < Text.wordBound := Nat.lt_of_le_of_lt (Nat.sub_le ..) fits
      have fitsLast := Nat.lt_trans within inMemory
      obtain ⟨first, foundFirst⟩ := exists_checkedPlainSpan ordered name fits (shown p fits)
      obtain ⟨last, foundLast⟩ := exists_checkedPlainSpan ordered name fitsLast (shown q fitsLast)
      have inOrder := kept q forward 0 0 first last foundFirst foundLast
      rwa [start_of_checkedPlainSpan foundFirst, start_of_checkedPlainSpan foundLast] at inOrder
    · have whole : (withMarks plain markLength marks name).source.length =
          plain.length + marks.length * markLength := by
        rw [withMarks, Source.length_ofList]
        exact length_markedChars plain.chars marks (Nat.zero_le _) ordered
      have all : plain.length ≤ shownOffset markLength marks q := length_le_shownOffset (whole ▸ beyond)
      rw [Nat.min_eq_right all]
      exact Nat.min_le_right ..
  · intro kept q forward _ _ first last foundFirst foundLast
    rw [start_of_checkedPlainSpan foundFirst, start_of_checkedPlainSpan foundLast]
    exact kept q forward

end MarkedSource

/-- What calls on a builder leave behind is the marked source of the marks that they put in. -/
theorem MarkBuilder.finish_run (plain : Source) (markLength : Nat) (calls : Insertions) (name : String) :
    let start := MarkBuilder.start plain markLength
    InOrder plain.length markLength 0 (start.run calls).1 ∧
      (start.run calls).2.finish name = .withMarks plain markLength (start.run calls).1 name := by
  intro start
  obtain ⟨marking, inserted, left⟩ := run_builder (Marking.start plain markLength) calls
  have left : (start.run calls).2 = marking.builder := left
  refine ⟨Marking.inOrder_of_insertAll inserted, ?_⟩
  rw [left]
  exact Marking.finish_of_insertAll inserted name

/-- The order of two places is kept unless the earlier one is inside a mark that ends by the later one. The
characters of a mark are shown from its offset on, as if they were plain ones, and the place behind the mark
at its offset again. So in a text in memory a place inside a mark keeps its order to all that follows exactly if the
mark stands at the end of the plain text. What is said of a part holds if its end is not beyond 64 bits. -/
theorem places_keep_order (plain : Source) (markLength : Nat) (calls : Insertions) (name : String) :
    let marks : Insertions := ((MarkBuilder.start plain markLength).run calls).1
    let marked := ((MarkBuilder.start plain markLength).run calls).2.finish name
    (∀ place < Text.wordBound, ∀ length,
      place - marked.offsets.countP (· ≤ place) * markLength + length < Text.wordBound →
        ∃ span, marked.checkedPlainSpan place length = .ok span) ∧
    (∀ p q, p ≤ q → (∀ stop ∈ marked.offsets, InMark markLength stop p → q < stop) →
      ∀ length length' first last, marked.checkedPlainSpan p length = .ok first →
        marked.checkedPlainSpan q length' = .ok last → first.start ≤ last.start) ∧
    (∀ (index : Nat) mark, marks[index]? = some mark → ∃ stop, marked.offsets[index]? = some stop ∧
      markLength ≤ stop ∧
      (∀ behind < markLength, ∀ length span,
        marked.checkedPlainSpan (stop - markLength + behind) length = .ok span →
          span.start = min (mark.1 + behind) plain.length) ∧
      ∀ length span, marked.checkedPlainSpan stop length = .ok span → span.start = mark.1) ∧
    (marked.source.length < Text.wordBound → ∀ p < Text.wordBound,
      (∀ q, p ≤ q → ∀ length length' first last, marked.checkedPlainSpan p length = .ok first →
        marked.checkedPlainSpan q length' = .ok last → first.start ≤ last.start) ↔
      ∀ (index : Nat) mark stop, marks[index]? = some mark → marked.offsets[index]? = some stop →
        InMark markLength stop p → mark.1 = plain.length) := by
  intro marks marked
  obtain ⟨ordered, same⟩ := MarkBuilder.finish_run plain markLength calls name
  have ordered : InOrder plain.length markLength 0 marks := ordered
  have same : marked = .withMarks plain markLength marks name := same
  have offsets : (MarkedSource.withMarks plain markLength marks name).offsets = markEnds markLength 0 marks := rfl
  rw [same]
  simp only [offsets]
  refine ⟨fun place fits length => MarkedSource.exists_checkedPlainSpan ordered name fits, ?order, ?marks, ?inside⟩
  case order =>
    intro p q forward clear length length' first last foundFirst foundLast
    rw [MarkedSource.start_of_checkedPlainSpan foundFirst, MarkedSource.start_of_checkedPlainSpan foundLast]
    exact min_le_min_right _ (shownOffset_le ordered forward clear)
  case marks =>
    intro index mark found
    have long := Nat.le_mul_of_pos_left markLength (Nat.succ_pos index)
    refine ⟨_, markEnd_of_mark found markLength, Nat.le_add_left_of_le long, ?_, ?_⟩
    · intro behind inside length span there
      have place : mark.1 + (index + 1) * markLength - markLength = mark.1 + index * markLength := by
        rw [Nat.succ_mul]
        omega
      rw [MarkedSource.start_of_checkedPlainSpan there, place, shownOffset_inMark ordered found inside]
    · intro length span there
      rw [MarkedSource.start_of_checkedPlainSpan there, shownOffset_markEnd ordered found]
      exact Nat.min_eq_left (ordered.offset_le_length _ (List.mem_of_getElem? found))
  case inside =>
    intro inMemory p fits
    refine (MarkedSource.kept_iff ordered inMemory fits).trans ((order_kept_iff ordered p).trans ?_)
    constructor
    · intro atEnd index mark stop found there within
      cases (markEnd_of_mark found markLength).symm.trans there
      exact atEnd index mark found within
    · intro atEnd index mark found within
      exact atEnd index mark _ found (markEnd_of_mark found markLength) within

/-- A place two characters into the mark in front of an action is shown behind what the end of the mark is shown at. -/
theorem order_lost_inside_mark :
    let marks : Insertions := [(5, "/*#fragment_000*/"), (10, "/*fragment_000#*/")]
    let marked := ((MarkBuilder.start ⟨"Expr.g4", "a : {go();} ;"⟩ 17).run marks).2.finish "Expr.g4"
    let start (place : Nat) := (marked.checkedPlainSpan place 1).toOption.map Span.start
    7 ≤ 22 ∧ 22 ≤ marked.source.length ∧ start 5 = some 5 ∧ start 7 = some 7 ∧ start 22 = some 5 := by
  decide +kernel

end GrammarFlow
