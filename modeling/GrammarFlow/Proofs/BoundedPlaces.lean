import GrammarFlow.Marks.Marked
import GrammarFlow.Proofs.BoundedArithmetic
import GrammarFlow.Proofs.LinePositions
import GrammarFlow.Proofs.SourceSpans

/-! Places that are computed in 64 bits. A position too far to the right of its line has no offset that could be
compared with the end of the line, and a part of a marked text too long has no end that could be moved into the
plain source. The places that a text in memory has are all found. -/

namespace GrammarFlow

open Text

namespace Source
variable {source : Source}

/-- The line of a position exists, and the place that the position stands for is beyond 64 bits. -/
def Exceeds (source : Source) (position : Position) : Prop :=
  ∃ line column start, position = ⟨line + 1, column + 1⟩ ∧ source.lineStarts[line]? = some start ∧
    wordBound ≤ start + column

theorem exceeds_iff {line column : Nat} : source.Exceeds ⟨line + 1, column + 1⟩ ↔
    ∃ start, source.lineStarts[line]? = some start ∧ wordBound ≤ start + column := by
  constructor
  · rintro ⟨_, _, start, ⟨⟩, here, exceeds⟩
    exact ⟨start, here, exceeds⟩
  · rintro ⟨start, here, exceeds⟩
    exact ⟨line, column, start, rfl, here, exceeds⟩

def keep? (source : Source) (line offset : Nat) : Option Nat :=
  match source.lineStarts[line + 1]? with
  | some next => if offset < next then some offset else none
  | none => if offset ≤ source.length then some offset else none

theorem exact_checkedOffsetAt? (source : Source) (position : Position) :
    Exact (source.checkedOffsetAt? position).run (source.Exceeds position) (source.offsetAt? position) := by
  obtain ⟨line, column⟩ := position
  have nowhere {position : Position} (missed : ¬source.Exceeds position) :
      Exact (.ok none) (source.Exceeds position) (none : Option Nat) :=
    (Exact.of_value none).congr (iff_of_false id missed)
  cases line with
  | zero => exact nowhere (by rintro ⟨_, _, _, same, -⟩; cases same)
  | succ line =>
    cases column with
    | zero => exact nowhere (by rintro ⟨_, _, _, same, -⟩; cases same)
    | succ column =>
      have split : source.offsetAt? ⟨line + 1, column + 1⟩ =
          source.lineStarts[line]?.bind fun start => (some (start + column)).bind (source.keep? line) := by
        simp only [offsetAt?]
        cases source.lineStarts[line]? <;> rfl
      rw [split]
      refine Exact.congr (Exact.bindOption (Exact.of_option _) fun start _ =>
        (exact_plus start column).lift.bindPure fun offset => ?_) ?_
      · unfold keep?
        cases source.lineStarts[line + 1]? <;> dsimp only <;> split <;> rfl
      · simp [exceeds_iff]

theorem Addressable.not_exceeds (addressable : source.Addressable) {position : Position} {offset : Nat}
    (found : source.offsetAt? position = some offset) : ¬source.Exceeds position := by
  obtain ⟨inside, rfl⟩ := positionAt_of_offsetAt? found
  obtain ⟨front, start, beyond, lines, reached, -, position⟩ := source.line_reached offset
  rintro ⟨line, column, first, same, here, exceeds⟩
  obtain ⟨rfl, rfl⟩ : front.length = line ∧ offset - start = column := by simpa [position] using same
  obtain rfl : start = first := by simpa [lines] using here
  rw [Nat.add_sub_cancel' reached] at exceeds
  rw [Addressable] at addressable
  omega

theorem checkedOffsetAt?_eq_some_iff (addressable : source.Addressable) {position : Position} {offset : Nat} :
    (source.checkedOffsetAt? position).run = .ok (some offset) ↔ source.offsetAt? position = some offset := by
  have exact := source.exact_checkedOffsetAt? position
  constructor
  · intro found
    exact (exact.eq_of_ok found).symm
  · intro found
    rw [← found]
    exact exact.within (addressable.not_exceeds found)

theorem exact_checkedPositionAt (source : Source) (offset : Nat) :
    Exact (source.checkedPositionAt offset) (wordBound ≤ (source.positionAt offset).column)
      (source.positionAt offset) :=
  (exact_plus ..).map (Position.mk _)

theorem checkedPositionAt_inside (addressable : source.Addressable) {offset : Nat} (inside : offset ≤ source.length) :
    source.checkedPositionAt offset = .ok (source.positionAt offset) :=
  (source.exact_checkedPositionAt offset).within (Nat.not_le.mpr (addressable.column_lt inside))

theorem run_bind_ok {α β : Type} {work : ExceptT Violation Checked α} {value : α} (ok : work.run = .ok (.ok value))
    (next : α → ExceptT Violation Checked β) : (work >>= next).run = (next value).run := by
  rw [ExceptT.run_bind, ok]
  rfl

theorem run_plus {a b : Nat} (fits : a + b < wordBound) :
    (liftM (plus a b) : ExceptT Violation Checked Nat).run = .ok (.ok (a + b)) := by
  rw [(exact_plus a b).within (Nat.not_le.mpr fits)]
  rfl

theorem checkedOffsetAt_positionAt (addressable : source.Addressable) {offset : Nat}
    (inside : offset ≤ source.length) :
    (source.checkedOffsetAt (source.positionAt offset)).run = .ok (.ok offset) := by
  obtain ⟨front, start, beyond, lines, reached, -, position⟩ := source.line_reached offset
  have line : source.lineStarts[front.length]? = some start := by simp [lines]
  have same : start + (offset - start + 1) = offset + 1 := by omega
  have bounded : start + (offset - start + 1) < wordBound := by
    rw [same]
    exact Nat.lt_of_le_of_lt (Nat.succ_le_succ inside) addressable
  simp only [checkedOffsetAt, position, line]
  rw [run_bind_ok (run_plus bounded), same]
  rfl

theorem checkedSpan_inside (addressable : source.Addressable) {start length : Nat}
    (inside : start + length ≤ source.length) :
    (source.checkedSpan start length).run = .ok (.ok ⟨source, start, length, inside⟩) := by
  have bounded : start + length < wordBound := Nat.lt_of_le_of_lt inside (Nat.lt_of_succ_lt addressable)
  rw [checkedSpan, run_bind_ok (run_plus bounded), span, dif_pos inside]
  rfl

theorem checkedToSpan_positions (span : Span) (addressable : span.source.Addressable) :
    span.positions.checkedToSpan.run = .ok (.ok span) := by
  have width : span.stop - span.start = span.length := Nat.add_sub_cancel_left _ _
  have first := checkedOffsetAt_positionAt addressable (Nat.le_trans (Nat.le_add_right ..) span.inside)
  have last : (span.source.checkedOffsetAt (span.source.positionAt span.stop)).run = .ok (.ok span.stop) :=
    checkedOffsetAt_positionAt addressable span.inside
  unfold PositionSpan.checkedToSpan Span.positions
  rw [run_bind_ok first, run_bind_ok last, width]
  exact checkedSpan_inside addressable span.inside

/-- Going from offsets to positions and back loses nothing on either side, and keeps the order. A position of no
offset is turned down, unless the place that it asks for is beyond 64 bits: then there is no answer. -/
theorem positions_correspond (addressable : source.Addressable) :
    (∀ offset ≤ source.length, source.checkedPositionAt offset = .ok (source.positionAt offset)) ∧
    (∀ a b, a < b → b ≤ source.length → (source.positionAt a).Before (source.positionAt b)) ∧
    Set.BijOn source.positionAt {offset | offset ≤ source.length}
      {position | ∃ offset, (source.checkedOffsetAt? position).run = .ok (some offset)} ∧
    (∀ offset ≤ source.length, (source.checkedOffsetAt? (source.positionAt offset)).run = .ok (some offset) ∧
      (source.checkedOffsetAt (source.positionAt offset)).run = .ok (.ok offset)) ∧
    (∀ position offset, (source.checkedOffsetAt? position).run = .ok (some offset) →
      offset ≤ source.length ∧ source.positionAt offset = position) ∧
    (∀ position, (∀ offset ≤ source.length, source.positionAt offset ≠ position) →
      (¬source.Exceeds position → (source.checkedOffsetAt? position).run = .ok none) ∧
      (source.Exceeds position → ∃ excess, (source.checkedOffsetAt? position).run = .error excess)) ∧
    ∀ span : Span, span.source = source → span.positions.checkedToSpan.run = .ok (.ok span) := by
  have accepted {position : Position} {offset : Nat} : (source.checkedOffsetAt? position).run = .ok (some offset) ↔
      source.offsetAt? position = some offset := checkedOffsetAt?_eq_some_iff addressable
  refine ⟨fun offset => checkedPositionAt_inside addressable, fun a b earlier _ => source.positionAt_before earlier,
    ?_, ?_, ?_, ?_, ?_⟩
  · simp only [accepted, ← Option.isSome_iff_exists]
    exact source.positionAt_bijOn
  · intro offset inside
    exact ⟨accepted.mpr (source.offsetAt?_positionAt offset inside), checkedOffsetAt_positionAt addressable inside⟩
  · intro position offset found
    exact positionAt_of_offsetAt? (accepted.mp found)
  · intro position missed
    have nowhere : source.offsetAt? position = none := by
      apply Option.eq_none_iff_forall_not_mem.mpr
      intro offset found
      obtain ⟨inside, same⟩ := positionAt_of_offsetAt? found
      exact missed offset inside same
    have exact := source.exact_checkedOffsetAt? position
    rw [nowhere] at exact
    exact ⟨exact.within, exact.beyond⟩
  · rintro span rfl
    exact checkedToSpan_positions span addressable

/-- A text of three lines, one of them empty. The line feed of a CR LF is a place of its own, on the line that the
pair ends. -/
theorem positions_of_three_lines :
    let source : Source := ⟨"t", "a\r\n\nb"⟩
    source.Addressable ∧ source.checkedPositionAt 2 = .ok ⟨1, 3⟩ ∧ source.checkedPositionAt 3 = .ok ⟨2, 1⟩ ∧
      (Position.mk 1 3).Before ⟨2, 1⟩ ∧ (source.checkedOffsetAt? ⟨1, 3⟩).run = .ok (some 2) ∧
      (source.checkedOffsetAt? ⟨2, 2⟩).run = .ok none ∧
      ∃ excess, (source.checkedOffsetAt? ⟨3, Text.wordBound⟩).run = .error excess := by
  intro source
  have addressable : source.Addressable := by decide
  obtain ⟨position, order, -, back, -, other, -⟩ := positions_correspond addressable
  have second : source.positionAt 2 = ⟨1, 3⟩ := by decide
  have third : source.positionAt 3 = ⟨2, 1⟩ := by decide
  have held : ¬source.Exceeds ⟨2, 2⟩ := by
    rw [exceeds_iff]
    rintro ⟨start, here, exceeds⟩
    have begins : source.lineStarts[1]? = some 3 := by decide
    obtain rfl : 3 = start := Option.some.inj (begins.symm.trans here)
    exact absurd exceeds (by decide)
  have exceeds : source.Exceeds ⟨3, Text.wordBound⟩ := ⟨2, _, 4, rfl, by decide, by decide⟩
  refine ⟨addressable, second ▸ position 2 (by decide), third ▸ position 3 (by decide), ?_, ?_, ?_, ?_⟩
  · exact third ▸ second ▸ order 2 3 (by decide) (by decide)
  · exact second ▸ (back 2 (by decide)).1
  · exact (other _ (by decide)).1 held
  · exact (other _ (by decide)).2 exceeds

/-- The greatest column of the second line is that of no offset, and instead of being turned down it has no answer. -/
theorem greatest_column_has_no_answer :
    let source : Source := ⟨"t", "a\nb"⟩
    (∀ offset ≤ source.length, source.positionAt offset ≠ ⟨2, 18446744073709551615⟩) ∧
      (source.checkedOffsetAt? ⟨2, 18446744073709551615⟩).run = .error .sum ∧
      (source.checkedOffsetAt? ⟨2, 3⟩).run = .ok none := by
  decide +kernel

end Source

namespace MarkedSource

/-- The marks in front of a place, or the end of the part that begins there, are beyond 64 bits. -/
def Exceeds (marked : MarkedSource) (start length : Nat) : Prop :=
  let before := marked.offsets.countP (· ≤ start) * marked.markLength
  wordBound ≤ before ∨ wordBound ≤ start - before + length

theorem exact_checkedPlainSpan (marked : MarkedSource) (start length : Nat) :
    Exact (marked.checkedPlainSpan start length) (marked.Exceeds start length) (marked.plainSpan start length) :=
  (exact_times ..).bind ((exact_plus ..).map _)

end MarkedSource

end GrammarFlow
