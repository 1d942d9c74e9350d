import GrammarFlow.Marks.Builder
import GrammarFlow.Proofs.MarkedText
import GrammarFlow.Proofs.PlainOffsets

/-! A builder of marked text that is called with any marks, good or bad. A refused call changes nothing, and
the calls that are taken keep the counters of the builder in step with its text. -/

namespace GrammarFlow

def Marking.builder (marking : Marking) : MarkBuilder where
  plain := marking.plain
  markLength := marking.markLength
  copied := marking.copied
  text := marking.text
  textLength := marking.text.length
  offsets := marking.offsets

namespace MarkBuilder

theorem run_bind {α β : Type} (work : Work α) (next : α → Work β) (builder : MarkBuilder) :
    (work >>= next).run.run builder = match work.run.run builder with
      | (.ok value, builder) => (next value).run.run builder
      | (.error error, builder) => (.error error, builder) := by
  have step : (work >>= next).run.run builder =
      ExceptT.bindCont next (work.run.run builder).1 (work.run.run builder).2 := rfl
  rw [step]
  obtain ⟨result, after⟩ := work.run.run builder
  cases result <;> rfl

theorem run_check (builder : MarkBuilder) (offset : Nat) (mark : String) :
    (check offset mark).run.run builder =
      (if builder.plain.length < offset then .error (.outOfRange offset builder.plain.length)
      else if offset < builder.copied then .error (.unordered offset builder.copied)
      else if mark.length ≠ builder.markLength then .error (.lengthMismatch builder.markLength mark.length)
      else .ok (), builder) := by
  have got : (get : Work MarkBuilder).run.run builder = (.ok builder, builder) := rfl
  rw [check, run_bind, got]
  dsimp only
  split
  · rfl
  · split
    · rfl
    · split
      · rfl
      · rfl

/-- The checks refuse what an insertion refuses, and change nothing. -/
theorem check_builder (marking : Marking) (offset : Nat) (mark : String) :
    (check offset mark).run.run marking.builder =
      ((marking.insert offset mark).map fun _ => (), marking.builder) := by
  rw [run_check, Marking.insert, apply_ite (Except.map _), apply_ite (Except.map _), apply_ite (Except.map _)]
  rfl

def extended (builder : MarkBuilder) (offset : Nat) (mark : String) : MarkBuilder :=
  let between := (builder.plain.chars.drop builder.copied).take (offset - builder.copied)
  let textLength := builder.textLength + (offset - builder.copied) + mark.length
  { builder with
    copied := offset, text := builder.text ++ between ++ mark.toList, textLength,
    offsets := builder.offsets ++ [textLength] }

theorem run_changes (builder : MarkBuilder) (offset : Nat) (mark : String) :
    (do copyTo offset; append mark : Work Unit).run.run builder = (.ok (), builder.extended offset mark) := rfl

theorem extended_builder {marking : Marking} {offset : Nat} {mark : String} (accepts : marking.Accepts offset mark) :
    marking.builder.extended offset mark = (marking.extended offset mark).builder := by
  have between := length_between accepts.inside marking.copied
  simp only [extended, Marking.builder, Marking.extended, List.length_append, between, String.length_toList]

/-- A call does to the builder of a marking what the insertion does to the marking. -/
theorem call_builder (marking : Marking) (offset : Nat) (mark : String) :
    marking.builder.call offset mark = match marking.insert offset mark with
      | .ok after => (.ok (), after.builder)
      | .error error => (.error error, marking.builder) := by
  rw [call, insert, run_bind, check_builder]
  cases inserted : marking.insert offset mark with
  | error => rfl
  | ok after =>
    obtain ⟨accepts, rfl⟩ := Marking.accepts_of_insert inserted
    exact (run_changes marking.builder offset mark).trans (congrArg _ (extended_builder accepts))

theorem refused_iff (marking : Marking) (offset : Nat) (mark : String) :
    (∃ error, (marking.builder.call offset mark).1 = .error error) ↔
      marking.plain.length < offset ∨ offset < marking.copied ∨ mark.length ≠ marking.markLength := by
  rw [call_builder]
  constructor
  · rintro ⟨error, refused⟩
    by_contra allowed
    simp only [not_or, Nat.not_lt, Decidable.not_not] at allowed
    rw [Marking.insert_of_accepts ⟨allowed.1, allowed.2.1, allowed.2.2⟩] at refused
    cases refused
  · intro reason
    cases inserted : marking.insert offset mark with
    | error error => exact ⟨error, rfl⟩
    | ok after =>
      obtain ⟨accepts, -⟩ := Marking.accepts_of_insert inserted
      have := accepts.inside
      have := accepts.ordered
      have := accepts.uniform
      omega

theorem unchanged_of_error {marking : Marking} {offset : Nat} {mark : String} {error : MarkError}
    (refused : (marking.builder.call offset mark).1 = .error error) :
    (marking.builder.call offset mark).2 = marking.builder := by
  rw [call_builder] at refused ⊢
  cases inserted : marking.insert offset mark with
  | error => rfl
  | ok after =>
    rw [inserted] at refused
    cases refused

/-- Calls put in marks that an insertion one after the other would put in, and leave what that leaves. -/
theorem run_builder (marking : Marking) (calls : Insertions) :
    ∃ after, marking.insertAll (marking.builder.run calls).1 = .ok after ∧
      (marking.builder.run calls).2 = after.builder := by
  induction calls generalizing marking with
  | nil => exact ⟨marking, rfl, rfl⟩
  | cons first calls ih =>
    obtain ⟨offset, mark⟩ := first
    have step := call_builder marking offset mark
    cases inserted : marking.insert offset mark with
    | error =>
      rw [inserted] at step
      simp only [run, step]
      exact ih marking
    | ok next =>
      rw [inserted] at step
      obtain ⟨after, others, left⟩ := ih next
      refine ⟨after, ?_, ?_⟩
      · simp only [run, step, Marking.insertAll, List.foldlM_cons, inserted]
        exact others
      · simp only [run, step]
        exact left

theorem run_of_insertAll {marking after : Marking} {marks : Insertions}
    (inserted : marking.insertAll marks = .ok after) : marking.builder.run marks = (marks, after.builder) := by
  induction marks generalizing marking with
  | nil =>
    cases inserted
    rfl
  | cons first marks ih =>
    obtain ⟨offset, mark⟩ := first
    obtain ⟨accepts, others⟩ := Marking.insertAll_cons inserted
    have step := call_builder marking offset mark
    rw [Marking.insert_of_accepts accepts] at step
    simp only [run, step, ih others]

theorem copied_of_insertAll {marking after : Marking} {marks : Insertions}
    (inserted : marking.insertAll marks = .ok after) :
    after.copied = (marks.getLast?.map Prod.fst).getD marking.copied := by
  induction marks generalizing marking with
  | nil =>
    cases inserted
    rfl
  | cons first marks ih =>
    obtain ⟨-, others⟩ := Marking.insertAll_cons inserted
    rw [ih others, List.getLast?_cons]
    cases marks.getLast? with
    | none => rfl
    | some last => rfl

/-- What the builder that took `marks` refuses next. -/
theorem refused_after {plain : Source} {markLength : Nat} {marks : Insertions} {marking : Marking}
    (inserted : (Marking.start plain markLength).insertAll marks = .ok marking) (offset : Nat) (mark : String) :
    (∃ error, (marking.builder.call offset mark).1 = .error error) ↔
      plain.length < offset ∨ (∃ last ∈ marks.getLast?, offset < last.1) ∨ mark.length ≠ markLength := by
  have samePlain : marking.plain = plain := congrArg MarkedSource.plain (Marking.finish_of_insertAll inserted "")
  have sameLength : marking.markLength = markLength :=
    congrArg MarkedSource.markLength (Marking.finish_of_insertAll inserted "")
  have tooEarly : offset < marking.copied ↔ ∃ last ∈ marks.getLast?, offset < last.1 := by
    rw [copied_of_insertAll inserted]
    cases marks.getLast? with
    | none => simp [Marking.start]
    | some last => simp
  rw [refused_iff, tooEarly, samePlain, sameLength]

/-- Whatever calls are made, only those that are taken count, and each of them leaves its mark. -/
theorem calls_accounted (plain : Source) (markLength : Nat) (calls : Insertions) :
    let start := MarkBuilder.start plain markLength
    let marks := (start.run calls).1
    let builder := (start.run calls).2
    start.run marks = (marks, builder) ∧
      (∃ marking, (Marking.start plain markLength).insertAll marks = .ok marking ∧
        ∀ name, marking.finish name = builder.finish name) ∧
      (∀ offset mark,
        ((∃ error, (builder.call offset mark).1 = .error error) ↔
          plain.length < offset ∨ (∃ last ∈ marks.getLast?, offset < last.1) ∨ mark.length ≠ markLength) ∧
        ∀ error, (builder.call offset mark).1 = .error error → (builder.call offset mark).2 = builder) ∧
      ∀ name, (builder.finish name).Carries plain markLength marks := by
  intro start marks builder
  obtain ⟨marking, inserted, left⟩ := run_builder (Marking.start plain markLength) calls
  have inserted : (Marking.start plain markLength).insertAll marks = .ok marking := inserted
  have left : builder = marking.builder := left
  have finished (name : String) : builder.finish name = .withMarks plain markLength marks name := by
    rw [left, ← Marking.finish_of_insertAll inserted name]
    rfl
  refine ⟨?_, ⟨marking, inserted, fun name => by rw [left]; rfl⟩, ?_, ?_⟩
  · rw [left]
    exact run_of_insertAll inserted
  · intro offset mark
    rw [left]
    exact ⟨refused_after inserted offset mark, fun error refused => unchanged_of_error refused⟩
  · intro name
    rw [finished name]
    exact MarkedSource.carries_withMarks (Marking.inOrder_of_insertAll inserted) name

/-- Marks that come too early, too late in the text or too long leave no trace. -/
example : ((MarkBuilder.start ⟨"E.g4", "abcdef"⟩ 2).run
    [(3, "<>"), (1, "<>"), (4, "<<>"), (9, "<>"), (3, "[]")]).1 = [(3, "<>"), (3, "[]")] := by
  decide +kernel

end MarkBuilder

end GrammarFlow
