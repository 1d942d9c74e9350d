import Mathlib.Data.List.Forall2
import GrammarFlow.Proofs.ActionRanges
import GrammarFlow.Proofs.CheckedScan

/-! What the first look leaves of a grammar's text. Every character keeps its place and line breaks stay, and the
noted actions are the contents of blocks, of which nothing but blanks and line breaks is left. -/

namespace GrammarFlow.Scan

/-- What a character of the text has become in the masked text. -/
def Shows (c shown : Char) : Prop := shown = c ∨ shown = ' ' ∧ c ≠ '\n' ∧ c ≠ '\r'

theorem shows_blank (c : Char) : Shows c (blank c) := by
  by_cases lineBreak : c = '\n' ∨ c = '\r'
  · exact .inl (if_pos lineBreak)
  · exact .inr ⟨if_neg lineBreak, not_or.mp lineBreak⟩

theorem blank_cases (c : Char) : blank c = ' ' ∨ blank c = '\n' ∨ blank c = '\r' := by
  by_cases lineBreak : c = '\n' ∨ c = '\r'
  · rw [blank, if_pos lineBreak]
    exact .inr lineBreak
  · exact .inl (if_neg lineBreak)

theorem maskAfter_shows (before : List Char) (offset skip : Nat) (text : List Char) :
    List.Forall₂ Shows text (maskAfter before offset skip text).text := by
  fun_induction maskAfter before offset skip text with
  | case1 => exact .nil
  | case2 before offset skip c rest masked ih => exact .cons (shows_blank c) ih
  | case3 before offset c rest plain masked ih => exact .cons (.inl rfl) ih
  | case4 before offset c rest length hidden masked ih => exact .cons (shows_blank c) ih
  | case5 before offset c rest length block masked actions ih => exact .cons (shows_blank c) ih

theorem mask_shows (text : List Char) : List.Forall₂ Shows text (mask text).text := maskAfter_shows [] 0 0 text

/-- A range is the content of a block of the text, which is blanked out in the masked text. -/
def IsContent (offset : Nat) (text masked : List Char) (range : Nat × Nat) : Prop :=
  ∃ done block rest blanked later, text = done ++ (block ++ rest) ∧ masked = blanked ++ (block.map blank ++ later) ∧
    blanked.length = done.length ∧ construct? (block ++ rest) = some (.block block.length) ∧
    range = contentRange (offset + done.length) block

theorem IsContent.behind {offset : Nat} {text masked : List Char} {range : Nat × Nat} (front blanked : List Char)
    (same : blanked.length = front.length) (content : IsContent (offset + front.length) text masked range) :
    IsContent offset (front ++ text) (blanked ++ masked) range := by
  obtain ⟨done, block, rest, blankedDone, later, rfl, rfl, sameDone, there, rfl⟩ := content
  refine ⟨front ++ done, block, rest, blanked ++ blankedDone, later, by simp, by simp, by simp [same, sameDone],
    there, ?_⟩
  rw [List.length_append, Nat.add_assoc]

theorem maskAfter_contents (before : List Char) (offset : Nat) (text : List Char) :
    ∀ range ∈ (maskAfter before offset 0 text).actions,
      IsContent offset text (maskAfter before offset 0 text).text range := by
  induction text using piece_induction generalizing before offset with
  | nil => intro range noted; cases noted
  | plain c rest none ih =>
    rw [maskAfter_plain none]
    intro range noted
    exact IsContent.behind [c] [c] rfl (ih (c :: before) (offset + 1) range noted)
  | construct piece rest found there whole nonempty ih =>
    rw [maskAfter_construct there whole nonempty]
    intro range noted
    rcases List.mem_append.mp noted with itself | behind
    · cases found with
      | hidden => cases itself
      | block length =>
        simp only [Construct.length] at whole
        refine ⟨[], piece, rest, [], _, rfl, rfl, rfl, whole ▸ there, ?_⟩
        simp only [Construct.actions] at itself
        split at itself
        next => cases itself
        next => exact List.mem_singleton.mp itself
    · exact IsContent.behind piece (piece.map blank) (List.length_map blank) (ih _ _ range behind)

theorem head?_of_block {text : List Char} {length : Nat} (there : construct? text = some (.block length)) :
    text.head? = some '\x7b' := by
  fun_cases construct? text
  all_goals simp_all [construct?]

theorem IsContent.brace {text masked : List Char} {range : Nat × Nat} (content : IsContent 0 text masked range) :
    text[range.1 - 1]? = some '\x7b' := by
  obtain ⟨done, block, rest, -, -, rfl, -, -, there, rfl⟩ := content
  rw [(contentRange_bounds _ block).1, Nat.zero_add, Nat.add_sub_cancel, List.getElem?_append_right (Nat.le_refl _),
    Nat.sub_self, ← List.head?_eq_getElem?, head?_of_block there]

theorem IsContent.blank {text masked : List Char} {range : Nat × Nat} (content : IsContent 0 text masked range)
    {offset : Nat} (behind : range.1 ≤ offset) (before : offset < range.2) :
    ∃ c, masked[offset]? = some (blank c) := by
  obtain ⟨done, block, rest, blanked, later, -, rfl, same, there, rfl⟩ := content
  obtain ⟨starts, -, ends⟩ := contentRange_bounds (0 + done.length) block
  have positive := (construct?_bounds there).1
  simp only [Construct.length] at positive
  have inside : offset - blanked.length < (block.map Scan.blank).length := by rw [List.length_map]; omega
  rw [List.getElem?_append_right (by omega), List.getElem?_append_left inside, List.getElem?_map]
  rw [List.length_map] at inside
  exact ⟨block[offset - blanked.length], by rw [List.getElem?_eq_getElem inside]; rfl⟩

/-- Masking never fails and keeps the place of every character and all line breaks. The actions lie in the text one
behind the other, each behind its brace, and nothing of their content is left. -/
theorem mask_keeps_places (text : List Char) :
    scan? text = some (mask text) ∧ (mask text).text.length = text.length ∧
      List.Forall₂ (fun c shown => shown = c ∨ shown = ' ' ∧ c ≠ '\n' ∧ c ≠ '\r') text (mask text).text ∧
      (mask text).actions.Pairwise (fun first second => first.2 < second.1) ∧
      ∀ range ∈ (mask text).actions, 1 ≤ range.1 ∧ range.1 ≤ range.2 ∧ range.2 ≤ text.length ∧
        text[range.1 - 1]? = some '\x7b' ∧ ∀ offset, range.1 ≤ offset → offset < range.2 →
          (mask text).text[offset]? = some ' ' ∨ (mask text).text[offset]? = some '\n' ∨
            (mask text).text[offset]? = some '\r' := by
  have between := mask_actions text
  refine ⟨scan?_eq text, (mask_shows text).length_eq.symm, mask_shows text, between.ordered, ?_⟩
  intro range noted
  obtain ⟨starts, forward, ends⟩ := between.bounded range noted
  have content : IsContent 0 text (mask text).text range := maskAfter_contents [] 0 text range noted
  refine ⟨starts, forward, ends, content.brace, fun offset behind before => ?_⟩
  obtain ⟨c, shown⟩ := content.blank behind before
  rcases blank_cases c with space | lineFeed | carriageReturn
  · exact .inl (space ▸ shown)
  · exact .inr (.inl (lineFeed ▸ shown))
  · exact .inr (.inr (carriageReturn ▸ shown))

end GrammarFlow.Scan
