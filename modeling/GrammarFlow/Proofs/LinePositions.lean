import Mathlib.Data.Set.Function
import GrammarFlow.Proofs.LineIndex

/-! Offsets and positions name the same places. Line starts increase, so the line that an offset lies on is
the only one that starts at or before it and ends behind it; a later offset has a later position, and
the positions of offsets are all that a source accepts. -/

namespace GrammarFlow

theorem lineStartsAfter_behind (chars : List Char) (offset : Nat) :
    ∀ start ∈ lineStartsAfter offset chars, offset < start := by
  fun_induction lineStartsAfter offset chars with
  | case1 => simp
  | case2 offset rest ih =>
    intro start member
    rcases List.mem_cons.mp member with rfl | member
    · omega
    · have := ih start member
      omega
  | case3 offset c rest _ _ ih =>
    intro start member
    rcases List.mem_cons.mp member with rfl | member
    · omega
    · have := ih start member
      omega
  | case4 offset c rest _ _ ih =>
    intro start member
    have := ih start member
    omega

theorem lineStartsAfter_sorted (chars : List Char) (offset : Nat) :
    (lineStartsAfter offset chars).Pairwise (· < ·) := by
  fun_induction lineStartsAfter offset chars with
  | case1 => exact .nil
  | case2 offset rest ih => exact .cons (lineStartsAfter_behind rest _) ih
  | case3 offset c rest _ _ ih => exact .cons (lineStartsAfter_behind rest _) ih
  | case4 offset c rest _ _ ih => exact ih

namespace Source
variable {source : Source} {front beyond : List Nat} {start offset : Nat}

theorem lineStarts_sorted (source : Source) : source.lineStarts.Pairwise (· < ·) :=
  .cons (lineStartsAfter_behind source.chars 0) (lineStartsAfter_sorted source.chars 0)

/-- An offset lies on the line that starts at or before it when the next line starts behind it. -/
theorem positionAt_of_split (lines : source.lineStarts = front ++ start :: beyond) (reached : start ≤ offset)
    (before : ∀ next ∈ beyond.head?, offset < next) :
    source.positionAt offset = ⟨front.length + 1, offset - start + 1⟩ := by
  have sorted := source.lineStarts_sorted
  rw [lines] at sorted
  have earlier : ∀ other ∈ front, decide (other ≤ offset) = true := by
    intro other member
    have := (List.pairwise_append.mp sorted).2.2 other member start List.mem_cons_self
    exact decide_eq_true (by omega)
  have later : beyond.takeWhile (· ≤ offset) = [] := by
    cases beyond with
    | nil => rfl
    | cons next rest =>
      have := before next rfl
      exact List.takeWhile_cons_of_neg (by simpa using this)
  have counted : source.lineStarts.takeWhile (· ≤ offset) = front ++ [start] := by
    rw [lines, List.takeWhile_append_of_pos earlier, List.takeWhile_cons_of_pos (by simpa using reached), later]
  simp only [positionAt, counted]
  simp

theorem split_of_offsetAt? {position : Position} (found : source.offsetAt? position = some offset) :
    ∃ front start beyond, source.lineStarts = front ++ start :: beyond ∧ start ≤ offset ∧
      (∀ next ∈ beyond.head?, offset < next) ∧ offset ≤ source.length ∧
      position = ⟨front.length + 1, offset - start + 1⟩ := by
  obtain ⟨line, column⟩ := position
  cases line with
  | zero => cases found
  | succ line =>
    cases column with
    | zero => cases found
    | succ column =>
      simp only [offsetAt?] at found
      cases here : source.lineStarts[line]? with
      | none => rw [here] at found; cases found
      | some start =>
        obtain ⟨inside, rfl⟩ := List.getElem?_eq_some_iff.mp here
        have lines : source.lineStarts = source.lineStarts.take line ++
            source.lineStarts[line] :: source.lineStarts.drop (line + 1) := by
          rw [← List.drop_eq_getElem_cons inside, List.take_append_drop]
        have width : (source.lineStarts.take line).length = line :=
          List.length_take_of_le (Nat.le_of_lt inside)
        have next : (source.lineStarts.drop (line + 1)).head? = source.lineStarts[line + 1]? :=
          List.head?_drop
        rw [here] at found
        refine ⟨_, _, _, lines, ?_⟩
        rw [next, width]
        cases following : source.lineStarts[line + 1]? with
        | none =>
          simp only [following, Option.ite_none_right_eq_some, Option.some.injEq] at found
          obtain ⟨bounded, rfl⟩ := found
          exact ⟨Nat.le_add_right _ _, by simp, bounded, by simp⟩
        | some next =>
          simp only [following, Option.ite_none_right_eq_some, Option.some.injEq] at found
          obtain ⟨bounded, rfl⟩ := found
          have := lineStart_le following
          exact ⟨Nat.le_add_right _ _, by simpa using bounded, by omega, by simp⟩

theorem positionAt_of_offsetAt? {position : Position} (found : source.offsetAt? position = some offset) :
    offset ≤ source.length ∧ source.positionAt offset = position := by
  obtain ⟨front, start, beyond, lines, reached, before, inside, rfl⟩ := split_of_offsetAt? found
  exact ⟨inside, positionAt_of_split lines reached before⟩

theorem lineStart_reached (source : Source) (offset : Nat) :
    ∃ start ≤ offset, source.positionAt start = ⟨(source.positionAt offset).line, 1⟩ := by
  obtain ⟨front, start, beyond, lines, reached, before, position⟩ := source.line_reached offset
  refine ⟨start, reached, ?_⟩
  have here := positionAt_of_split lines (Nat.le_refl start)
    fun next following => Nat.lt_of_le_of_lt reached (before next following)
  rw [here, position, Nat.sub_self]

private theorem next_le {front other beyond rest : List Nat} {start later : Nat}
    (sorted : (front ++ start :: beyond).Pairwise (· < ·))
    (same : other ++ later :: rest = front ++ start :: beyond) (shorter : front.length < other.length) :
    ∃ next ∈ beyond.head?, next ≤ later := by
  obtain ⟨between, rfl, behind⟩ : ∃ between, other = front ++ between ∧
      start :: beyond = between ++ later :: rest := by
    rcases List.append_eq_append_iff.mp same with ⟨_, rfl, -⟩ | parts
    · simp only [List.length_append] at shorter
      omega
    · exact parts
  cases between with
  | nil => simp at shorter
  | cons first between =>
    obtain ⟨rfl, rfl⟩ := List.cons.inj behind
    have increasing := (List.pairwise_cons.mp (List.pairwise_append.mp sorted).2.1).2
    cases between with
    | nil => exact ⟨later, rfl, Nat.le_refl _⟩
    | cons next between =>
      have before := (List.pairwise_cons.mp increasing).1 later (by simp)
      exact ⟨next, rfl, Nat.le_of_lt before⟩

theorem positionAt_before (source : Source) {a b : Nat} (earlier : a < b) :
    (source.positionAt a).Before (source.positionAt b) := by
  obtain ⟨frontA, startA, beyondA, linesA, reachedA, -, positionA⟩ := source.line_reached a
  obtain ⟨frontB, startB, beyondB, linesB, reachedB, beforeB, positionB⟩ := source.line_reached b
  rw [positionA, positionB]
  rcases Nat.lt_trichotomy frontA.length frontB.length with less | same | more
  · exact .inl (Nat.succ_lt_succ less)
  · obtain ⟨rfl, rest⟩ := List.append_inj (linesA.symm.trans linesB) same
    obtain ⟨rfl, -⟩ := List.cons.inj rest
    exact .inr ⟨rfl, by simp only; omega⟩
  · obtain ⟨next, following, ordered⟩ := next_le (linesB ▸ source.lineStarts_sorted)
      (linesA.symm.trans linesB) more
    have := beforeB next following
    omega

theorem positionAt_bijOn (source : Source) :
    Set.BijOn source.positionAt {offset | offset ≤ source.length}
      {position | (source.offsetAt? position).isSome} := by
  have back := source.offsetAt?_positionAt
  refine ⟨?_, ?_, ?_⟩
  · intro offset inside
    exact Option.isSome_of_eq_some (back offset inside)
  · intro a insideA b insideB same
    have atA := back a insideA
    rw [same, back b insideB] at atA
    exact (Option.some.inj atA).symm
  · intro position accepted
    obtain ⟨offset, found⟩ := Option.isSome_iff_exists.mp accepted
    exact ⟨offset, positionAt_of_offsetAt? found⟩

end Source

end GrammarFlow
