import GrammarFlow.Proofs.LinePositions
import GrammarFlow.Text.LineScan

/-! The line starts of a text are offset 0 and the offsets behind the characters that end a line. One pass
over the text, which counts its characters as it goes, finds them all and nothing else. -/

namespace GrammarFlow

/-- A line ends with the character at `index`. A carriage return leaves that to a line feed behind it. -/
def EndsLine (chars : List Char) (index : Nat) : Prop :=
  ∃ c, chars[index]? = some c ∧
    (c = '\n' ∨ c = '\u2028' ∨ c = '\u2029' ∨ c = '\r' ∧ chars[index + 1]? ≠ some '\n')

theorem isTerminator_iff (c : Char) :
    isTerminator c = true ↔ c = '\n' ∨ c = '\r' ∨ c = '\u2028' ∨ c = '\u2029' := by
  simp [isTerminator, or_assoc]

theorem endsLine_succ (c : Char) (rest : List Char) (index : Nat) :
    EndsLine (c :: rest) (index + 1) ↔ EndsLine rest index := Iff.rfl

theorem not_endsLine_of_pair (rest : List Char) : ¬ EndsLine ('\r' :: '\n' :: rest) 0 := by
  simp [EndsLine]

theorem endsLine_of_alone {c : Char} {rest : List Char} (ends : isTerminator c = true)
    (alone : ∀ behind, c = '\r' → rest = '\n' :: behind → False) : EndsLine (c :: rest) 0 := by
  have notPair : c = '\r' → rest[0]? ≠ some '\n' := by
    intro carriageReturn lineFeed
    cases rest with
    | nil => cases lineFeed
    | cons next behind => exact alone behind carriageReturn (by simpa using lineFeed)
  refine ⟨c, rfl, ?_⟩
  rcases (isTerminator_iff c).mp ends with is | is | is | is
  · exact .inl is
  · exact .inr (.inr (.inr ⟨is, notPair is⟩))
  · exact .inr (.inl is)
  · exact .inr (.inr (.inl is))

theorem isTerminator_of_endsLine {c : Char} {rest : List Char} (ends : EndsLine (c :: rest) 0) :
    isTerminator c = true := by
  obtain ⟨d, same, is⟩ := ends
  cases same
  rw [isTerminator_iff]
  tauto

theorem mem_lineStartsAfter (chars : List Char) (offset index : Nat) :
    offset + index + 1 ∈ lineStartsAfter offset chars ↔ EndsLine chars index := by
  fun_induction lineStartsAfter offset chars generalizing index with
  | case1 => simp [EndsLine]
  | case2 offset rest ih =>
    have behind := lineStartsAfter_behind rest (offset + 2)
    cases index with
    | zero =>
      refine iff_of_false ?_ (not_endsLine_of_pair rest)
      intro member
      rcases List.mem_cons.mp member with same | member
      · omega
      · have := behind _ member
        omega
    | succ index =>
      cases index with
      | zero => exact iff_of_true List.mem_cons_self ⟨'\n', rfl, .inl rfl⟩
      | succ index =>
        have shift : offset + (index + 1 + 1) + 1 = offset + 2 + index + 1 := by omega
        rw [endsLine_succ, endsLine_succ, ← ih index, shift, List.mem_cons]
        exact or_iff_right (by omega)
  | case3 offset c rest alone ends ih =>
    cases index with
    | zero => exact iff_of_true List.mem_cons_self (endsLine_of_alone ends alone)
    | succ index =>
      have shift : offset + (index + 1) + 1 = offset + 1 + index + 1 := by omega
      rw [endsLine_succ, ← ih index, shift, List.mem_cons]
      exact or_iff_right (by omega)
  | case4 offset c rest _ within ih =>
    cases index with
    | zero =>
      refine iff_of_false ?_ fun ends => within (isTerminator_of_endsLine ends)
      intro member
      have := lineStartsAfter_behind rest (offset + 1) _ member
      omega
    | succ index =>
      have shift : offset + (index + 1) + 1 = offset + 1 + index + 1 := by omega
      rw [endsLine_succ, ← ih index, shift]

namespace LineScan

theorem read_eq (starts : List Nat) (offset : Nat) (chars : List Char) :
    read ⟨starts, offset⟩ offset chars = ⟨starts ++ lineStartsAfter offset chars, offset + chars.length⟩ := by
  fun_induction lineStartsAfter offset chars generalizing starts with
  | case1 => simp [read]
  | case2 offset rest ih =>
    simp only [read, ih, List.append_assoc, List.singleton_append, List.length_cons, mk.injEq, true_and]
    omega
  | case3 offset c rest alone ends ih =>
    rw [read]
    · rw [if_pos ends, ih, List.append_assoc, List.length_cons, Nat.add_right_comm]
      rfl
    · exact alone
  | case4 offset c rest alone within ih =>
    rw [read]
    · rw [if_neg within, ih, List.length_cons, Nat.add_right_comm]
      rfl
    · exact alone

end LineScan

namespace Source

theorem lineScan_eq (source : Source) : source.lineScan = ⟨source.lineStarts, source.length⟩ := by
  rw [lineScan, LineScan.start, LineScan.read_eq, Nat.zero_add]
  rfl

/-- One pass over a text finds its length and its line starts: they increase from 0, stay in the text,
and are otherwise the offsets right behind what ends a line. -/
theorem lineScan_exact (source : Source) :
    source.lineScan = ⟨source.lineStarts, source.length⟩ ∧ source.length = source.text.length ∧
      source.lineStarts.head? = some 0 ∧ source.lineStarts.Pairwise (· < ·) ∧
      (∀ start ∈ source.lineStarts, start ≤ source.length) ∧
      ∀ offset, offset + 1 ∈ source.lineStarts ↔ EndsLine source.chars offset := by
  refine ⟨source.lineScan_eq, String.length_toList, rfl, source.lineStarts_sorted, ?_, ?_⟩
  · intro start member
    obtain ⟨index, found⟩ := List.mem_iff_getElem?.mp member
    exact lineStart_le found
  · intro offset
    rw [← mem_lineStartsAfter source.chars 0 offset, Nat.zero_add]
    exact List.mem_cons.trans (or_iff_right (Nat.succ_ne_zero offset))

/-- A carriage return in front of a CR LF ends a line of its own, and so does one at the end of the text. -/
example : (Source.lineScan ⟨"t", "a\r\r\n\u2028b\r"⟩) = ⟨[0, 2, 4, 5, 7], 7⟩ := by decide +kernel

end Source

end GrammarFlow
