import Mathlib.Data.List.Basic
import GrammarFlow.Proofs.MarkInsertion

/-! A marked text seen from outside. Each mark stands in front of the plain character at its offset, right
before its recorded end, and when the stretches of the marks are taken out the plain text is left. -/

namespace GrammarFlow

def marksAt (marks : Insertions) (offset : Nat) : List Char :=
  (marks.filter (·.1 = offset)).flatMap (·.2.toList)

def splicedChars (plain : List Char) (marks : Insertions) : List Char :=
  (List.range (plain.length + 1)).flatMap fun offset => marksAt marks offset ++ plain[offset]?.toList

def inStretch (length : Nat) (stops : List Nat) (place : Nat) : Bool :=
  stops.any fun stop => stop - length ≤ place && place < stop

def withoutStretches (length : Nat) (stops : List Nat) (start : Nat) (text : List Char) : List Char :=
  ((text.zipIdx start).filter fun (_, place) => !inStretch length stops place).map Prod.fst

section Spliced
variable {plain : List Char} {textLength markLength copied : Nat} {marks : Insertions}

theorem marksAt_behind (behind : ∀ mark ∈ marks, copied ≤ mark.1) {offset : Nat} (before : offset < copied) :
    marksAt marks offset = [] := by
  have none : marks.filter (·.1 = offset) = [] := by
    apply List.filter_eq_nil_iff.mpr
    intro mark member
    have := behind mark member
    simp only [decide_eq_true_eq]
    omega
  rw [marksAt, none, List.flatMap_nil]

private theorem flatMap_getElem? (plain : List Char) (start count : Nat) :
    (List.range' start count).flatMap (fun offset => plain[offset]?.toList) = (plain.drop start).take count := by
  induction count generalizing start with
  | zero => simp
  | succ count ih =>
    rw [List.range'_succ, List.flatMap_cons, ih]
    by_cases inside : start < plain.length
    · rw [List.drop_eq_getElem_cons inside, List.take_succ_cons, List.getElem?_eq_getElem inside]
      rfl
    · have beyond := Nat.le_of_not_lt inside
      rw [List.getElem?_eq_none beyond, List.drop_eq_nil_of_le beyond,
        List.drop_eq_nil_of_le (Nat.le_succ_of_le beyond)]
      simp

private theorem flatMap_plain (behind : ∀ mark ∈ marks, copied ≤ mark.1) {start count : Nat}
    (upTo : start + count ≤ copied) :
    (List.range' start count).flatMap (fun offset => marksAt marks offset ++ plain[offset]?.toList) =
      (plain.drop start).take count := by
  rw [← flatMap_getElem?]
  apply List.flatMap_congr
  intro offset member
  have := List.mem_range'_1.mp member
  rw [marksAt_behind behind (by omega), List.nil_append]

private theorem markedChars_eq_flatMap (ordered : InOrder plain.length markLength copied marks)
    (inside : copied ≤ plain.length) :
    markedChars plain copied marks = (List.range' copied (plain.length + 1 - copied)).flatMap
      fun offset => marksAt marks offset ++ plain[offset]?.toList := by
  induction marks generalizing copied with
  | nil =>
    have whole : (plain.drop copied).take (plain.length + 1 - copied) = plain.drop copied := by
      apply List.take_of_length_le
      rw [List.length_drop]
      omega
    simp only [markedChars, marksAt, List.filter_nil, List.flatMap_nil, List.nil_append, flatMap_getElem?, whole]
  | cons first marks ih =>
    obtain ⟨offset, mark⟩ := first
    obtain ⟨after, bounded, -, others⟩ := ordered
    have behind : ∀ other ∈ (offset, mark) :: marks, offset ≤ other.1 :=
      List.forall_mem_cons.mpr ⟨Nat.le_refl _, others.le_offset⟩
    have split : List.range' copied (plain.length + 1 - copied) =
        List.range' copied (offset - copied) ++ List.range' offset (plain.length + 1 - offset) := by
      have joined := @List.range'_append_1 copied (offset - copied) (plain.length + 1 - offset)
      rw [Nat.add_sub_cancel' after] at joined
      rw [joined]
      congr 1
      omega
    have fromHere : List.range' offset (plain.length + 1 - offset) =
        offset :: List.range' (offset + 1) (plain.length - offset) := by
      rw [← List.range'_succ]
      congr 1
      omega
    have here : marksAt ((offset, mark) :: marks) offset = mark.toList ++ marksAt marks offset := by
      simp [marksAt]
    have later : (List.range' (offset + 1) (plain.length - offset)).flatMap
          (fun place => marksAt ((offset, mark) :: marks) place ++ plain[place]?.toList) =
        (List.range' (offset + 1) (plain.length - offset)).flatMap
          fun place => marksAt marks place ++ plain[place]?.toList := by
      apply List.flatMap_congr
      intro place member
      have different : offset ≠ place := by
        have := List.mem_range'_1.mp member
        omega
      simp [marksAt, different]
    rw [split, List.flatMap_append, flatMap_plain behind (by omega), fromHere, List.flatMap_cons, here, later,
      markedChars, ih others bounded, fromHere, List.flatMap_cons]
    simp only [List.append_assoc]

theorem markedChars_eq_spliced (ordered : InOrder plain.length markLength 0 marks) :
    markedChars plain 0 marks = splicedChars plain marks := by
  rw [markedChars_eq_flatMap ordered (Nat.zero_le _), splicedChars, List.range_eq_range', Nat.sub_zero]

end Spliced

section Stretches
variable {plain : List Char} {markLength copied : Nat} {marks : Insertions}

theorem length_markEnds (markLength earlier : Nat) (marks : Insertions) :
    (markEnds markLength earlier marks).length = marks.length := by
  induction marks generalizing earlier with
  | nil => rfl
  | cons first marks ih => simp [markEnds, ih]

theorem getElem?_markEnds (markLength earlier : Nat) (marks : Insertions) (index : Nat) :
    (markEnds markLength earlier marks)[index]? =
      marks[index]?.map fun mark => mark.1 + (earlier + index + 1) * markLength := by
  induction marks generalizing earlier index with
  | nil => rfl
  | cons first marks ih =>
    cases index with
    | zero => rfl
    | succ index =>
      have count : earlier + 1 + index + 1 = earlier + (index + 1) + 1 := by omega
      rw [markEnds, List.getElem?_cons_succ, List.getElem?_cons_succ, ih, count]

theorem markEnds_behind (ordered : InOrder plain.length markLength copied marks) (earlier : Nat) :
    ∀ stop ∈ markEnds markLength earlier marks, copied + (earlier + 1) * markLength ≤ stop := by
  intro stop member
  obtain ⟨index, found⟩ := List.mem_iff_getElem?.mp member
  rw [getElem?_markEnds] at found
  obtain ⟨mark, there, rfl⟩ := Option.map_eq_some_iff.mp found
  have := ordered.le_offset mark (List.mem_of_getElem? there)
  have := Nat.mul_le_mul_right markLength (show earlier + 1 ≤ earlier + index + 1 by omega)
  omega

/-- Every mark is found where the marks in front of it have moved it. -/
theorem mark_in_markedChars (ordered : InOrder plain.length markLength copied marks)
    (inside : copied ≤ plain.length) {index : Nat} {mark : Nat × String} (found : marks[index]? = some mark) :
    ((markedChars plain copied marks).drop (mark.1 - copied + index * markLength)).take markLength =
      mark.2.toList := by
  induction marks generalizing copied index with
  | nil => cases found
  | cons first marks ih =>
    obtain ⟨after, bounded, uniform, others⟩ := ordered
    have width := length_between bounded copied
    have markWidth : first.2.toList.length = markLength := by rw [String.length_toList, uniform]
    rw [markedChars]
    cases index with
    | zero =>
      cases found
      rw [Nat.zero_mul, Nat.add_zero, List.append_assoc, List.drop_left' width, List.take_left' markWidth]
    | succ index =>
      have found : marks[index]? = some mark := found
      have reached := others.le_offset mark (List.mem_of_getElem? found)
      have front : ((plain.drop copied).take (first.1 - copied) ++ first.2.toList).length =
          first.1 - copied + markLength := by
        rw [List.length_append, width, markWidth]
      have place : mark.1 - copied + (index + 1) * markLength =
          ((plain.drop copied).take (first.1 - copied) ++ first.2.toList).length +
            (mark.1 - first.1 + index * markLength) := by
        rw [front, Nat.succ_mul]
        omega
      rw [place, ← List.drop_drop, List.drop_left]
      exact ih others bounded found

end Stretches

section Restored
variable {length start : Nat} {stops : List Nat} {text : List Char}

theorem withoutStretches_append (length : Nat) (stops : List Nat) (start : Nat) (front back : List Char) :
    withoutStretches length stops start (front ++ back) =
      withoutStretches length stops start front ++ withoutStretches length stops (start + front.length) back := by
  rw [withoutStretches, List.zipIdx_append, List.filter_append, List.map_append]
  rfl

theorem withoutStretches_outside
    (outside : ∀ place, start ≤ place → place < start + text.length → inStretch length stops place = false) :
    withoutStretches length stops start text = text := by
  have all : (text.zipIdx start).filter (fun (_, place) => !inStretch length stops place) = text.zipIdx start := by
    apply List.filter_eq_self.mpr
    rintro ⟨c, place⟩ member
    obtain ⟨reached, before, -⟩ := List.mem_zipIdx member
    simp [outside place reached before]
  rw [withoutStretches, all, List.zipIdx_map_fst]

theorem withoutStretches_within
    (within : ∀ place, start ≤ place → place < start + text.length → inStretch length stops place = true) :
    withoutStretches length stops start text = [] := by
  have none : (text.zipIdx start).filter (fun (_, place) => !inStretch length stops place) = [] := by
    apply List.filter_eq_nil_iff.mpr
    rintro ⟨c, place⟩ member
    obtain ⟨reached, before, -⟩ := List.mem_zipIdx member
    simp [within place reached before]
  rw [withoutStretches, none, List.map_nil]

/-- The stretches of the marks in front are `passed`; those of the others are still to come. -/
private theorem withoutStretches_from {plain : List Char} {markLength copied earlier : Nat} {passed : List Nat}
    {marks : Insertions} (ordered : InOrder plain.length markLength copied marks) (inside : copied ≤ plain.length)
    (behind : ∀ stop ∈ passed, stop ≤ copied + earlier * markLength) :
    withoutStretches markLength (passed ++ markEnds markLength earlier marks) (copied + earlier * markLength)
      (markedChars plain copied marks) = plain.drop copied := by
  induction marks generalizing passed copied earlier with
  | nil =>
    apply withoutStretches_outside
    intro place reached _
    simp only [inStretch, markEnds, List.append_nil, List.any_eq_false, Bool.and_eq_true, decide_eq_true_eq]
    intro stop member
    have := behind stop member
    omega
  | cons first marks ih =>
    obtain ⟨offset, mark⟩ := first
    obtain ⟨after, bounded, uniform, others⟩ := ordered
    have fromMark : InOrder plain.length markLength offset ((offset, mark) :: marks) :=
      ⟨Nat.le_refl _, bounded, uniform, others⟩
    have ahead := markEnds_behind fromMark earlier
    have width := length_between bounded copied
    have weight : (earlier + 1) * markLength = earlier * markLength + markLength := Nat.succ_mul _ _
    let stops := passed ++ markEnds markLength earlier ((offset, mark) :: marks)
    have between : withoutStretches markLength stops (copied + earlier * markLength)
        ((plain.drop copied).take (offset - copied)) = (plain.drop copied).take (offset - copied) := by
      apply withoutStretches_outside
      intro place reached before
      rw [width] at before
      simp only [inStretch, stops, List.any_eq_false, List.mem_append, Bool.and_eq_true, decide_eq_true_eq]
      rintro stop (member | member)
      · have := behind stop member
        omega
      · have := ahead stop member
        omega
    have marked : withoutStretches markLength stops (offset + earlier * markLength) mark.toList = [] := by
      apply withoutStretches_within
      intro place reached before
      rw [String.length_toList, uniform] at before
      apply List.any_eq_true.mpr
      refine ⟨offset + (earlier + 1) * markLength, by simp [stops, markEnds], ?_⟩
      simp only [Bool.and_eq_true, decide_eq_true_eq]
      omega
    have passedNow : ∀ stop ∈ passed ++ [offset + (earlier + 1) * markLength],
        stop ≤ offset + (earlier + 1) * markLength := by
      intro stop member
      rcases List.mem_append.mp member with member | member
      · have := behind stop member
        omega
      · exact Nat.le_of_eq (List.mem_singleton.mp member)
    have rest := ih others bounded passedNow
    rw [List.append_assoc, List.singleton_append] at rest
    have atMark : copied + earlier * markLength + (offset - copied) = offset + earlier * markLength := by omega
    have atRest : offset + earlier * markLength + markLength = offset + (earlier + 1) * markLength := by omega
    have whole := List.take_append_drop (offset - copied) (plain.drop copied)
    rw [List.drop_drop, Nat.add_sub_cancel' after] at whole
    rw [markedChars, List.append_assoc, withoutStretches_append, withoutStretches_append, width, atMark, between,
      marked, String.length_toList, uniform, atRest, List.nil_append]
    exact (congrArg _ rest).trans whole

theorem withoutStretches_markedChars {plain : List Char} {markLength : Nat} {marks : Insertions}
    (ordered : InOrder plain.length markLength 0 marks) :
    withoutStretches markLength (markEnds markLength 0 marks) 0 (markedChars plain 0 marks) = plain := by
  have restored : withoutStretches markLength ([] ++ markEnds markLength 0 marks) (0 + 0 * markLength)
      (markedChars plain 0 marks) = plain.drop 0 := withoutStretches_from ordered (Nat.zero_le _) (by simp)
  rw [Nat.zero_mul, Nat.add_zero, List.nil_append, List.drop_zero] at restored
  exact restored

end Restored

/-- All that a marked source has to say about the marks in it. -/
structure MarkedSource.Carries (marked : MarkedSource) (plain : Source) (markLength : Nat) (marks : Insertions) :
    Prop where
  text : marked.source.chars = splicedChars plain.chars marks
  count : marked.offsets.length = marks.length
  stops : ∀ index offset mark, marks[index]? = some (offset, mark) →
    ∃ stop, marked.offsets[index]? = some stop ∧ stop = offset + (index + 1) * markLength ∧
      (marked.source.chars.drop (stop - markLength)).take markLength = mark.toList
  restored : withoutStretches markLength marked.offsets 0 marked.source.chars = plain.chars

theorem MarkedSource.carries_withMarks {plain : Source} {markLength : Nat} {marks : Insertions}
    (ordered : InOrder plain.length markLength 0 marks) (name : String) :
    (withMarks plain markLength marks name).Carries plain markLength marks := by
  have chars : (withMarks plain markLength marks name).source.chars = markedChars plain.chars 0 marks :=
    String.toList_ofList
  refine ⟨chars.trans (markedChars_eq_spliced ordered), length_markEnds _ _ _, ?_, ?_⟩
  · intro index offset mark found
    have recorded := getElem?_markEnds markLength 0 marks index
    rw [found, Nat.zero_add] at recorded
    have start : offset + (index + 1) * markLength - markLength = offset - 0 + index * markLength := by
      rw [Nat.succ_mul]
      omega
    refine ⟨_, recorded, rfl, ?_⟩
    rw [chars, start]
    exact mark_in_markedChars ordered (Nat.zero_le _) found
  · rw [chars]
    exact withoutStretches_markedChars ordered

end GrammarFlow
