import GrammarFlow.Proofs.DigitValues
import GrammarFlow.Proofs.MarkReading

/-! A mark that is read is the mark that is written for its number. The digits of a mark are as many as
its number has when it is written, so no other text of that length has the same value. -/

namespace GrammarFlow

theorem eq_of_readNumber {text rest : List Char} {number : Nat} (read : readNumber text = some (number, rest)) :
    number < numberBound ∧ text = paddedDigits fragmentDigits number ++ rest := by
  simp only [readNumber] at read
  split at read
  next shape =>
    obtain ⟨width, digits⟩ := shape
    have digits := List.all_eq_true.mp digits
    obtain ⟨rfl, rfl⟩ := Prod.mk.inj (Option.some.inj read)
    have small := ofDigitChars_lt digits
    rw [width] at small
    have same : text.take fragmentDigits =
        paddedDigits fragmentDigits (Nat.ofDigitChars 10 (text.take fragmentDigits) 0) :=
      ofDigitChars_inj (width.trans (length_paddedDigits small).symm) digits
        (fun _ member => isDigit_paddedDigits member) (value_paddedDigits _ _).symm
    refine ⟨small, ?_⟩
    rw [← same, List.take_append_drop]
  next => cases read

namespace MarkStyle
variable {marks : MarkStyle} {text rest : List Char} {number : Nat}

private theorem eq_of_readMark {lead trail : List Char} (read : (do
      let rest ← dropLead lead text
      let (number, rest) ← readNumber rest
      let rest ← dropLead trail rest
      return (number, rest)) = some (number, rest)) :
    number < numberBound ∧ text = lead ++ (paddedDigits fragmentDigits number ++ trail) ++ rest := by
  simp only [Option.bind_eq_bind, Option.bind_eq_some_iff, Prod.exists] at read
  obtain ⟨first, begins, found, second, digits, third, ends, done⟩ := read
  cases done
  obtain ⟨small, rfl⟩ := eq_of_readNumber digits
  rw [dropLead_eq_some] at begins ends
  subst begins ends
  exact ⟨small, by simp⟩

/-- An open mark that is read is the one that is written for its number. -/
theorem eq_of_readOpen (read : marks.readOpen text = some (number, rest)) :
    number < numberBound ∧ text = (marks.openMark number).toList ++ rest := by
  rw [openMark_chars]
  exact eq_of_readMark read

theorem eq_of_readClose (read : marks.readClose text = some (number, rest)) :
    number < numberBound ∧ text = (marks.closeMark number).toList ++ rest := by
  rw [closeMark_chars]
  exact eq_of_readMark read

end MarkStyle

theorem eq_of_findFirst {read : List Char → Option (Nat × List Char)} {text before after : List Char} {number : Nat}
    (found : findFirst read text = some (before, number, after)) :
    ∃ marked, text = before ++ marked ∧ read marked = some (number, after) := by
  induction text generalizing before with
  | nil =>
    simp only [findFirst, Option.map_eq_some_iff, Prod.exists] at found
    obtain ⟨_, _, here, same⟩ := found
    cases same
    exact ⟨[], rfl, here⟩
  | cons c rest ih =>
    simp only [findFirst] at found
    split at found
    next here => cases found; exact ⟨c :: rest, rfl, here⟩
    next =>
      simp only [Option.map_eq_some_iff, Prod.exists] at found
      obtain ⟨_, _, _, later, same⟩ := found
      cases same
      obtain ⟨marked, rfl, here⟩ := ih later
      exact ⟨marked, rfl, here⟩

end GrammarFlow
