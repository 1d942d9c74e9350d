import GrammarFlow.Marks.FragmentMap

/-! Marks are read back. The lead of a mark, up to the digits of its number, ends with its only
underscore when the comment syntax has none. Such a lead cannot begin in a text that does not hold it
and end in a mark behind that text, so the first mark found is the first one that was put in. -/

namespace GrammarFlow

/-- Numbers below this bound have no more digits than a fragment number. -/
def numberBound : Nat := Nat.pow 10 fragmentDigits

theorem length_paddedDigits {number : Nat} (small : number < numberBound) :
    (paddedDigits fragmentDigits number).length = fragmentDigits := by
  have digits : (Nat.toDigits 10 number).length ≤ fragmentDigits :=
    (Nat.length_toDigits_le_iff (by decide) (by decide)).mpr small
  simp only [paddedDigits, List.length_append, List.length_replicate]
  omega

theorem isDigit_paddedDigits {width number : Nat} {c : Char} (member : c ∈ paddedDigits width number) :
    c.isDigit = true := by
  rcases List.mem_append.mp member with filled | digit
  · obtain rfl := (List.mem_replicate.mp filled).2
    decide
  · exact Nat.isDigit_of_mem_toDigits (by decide) (by decide) digit

theorem value_paddedDigits (width number : Nat) : Nat.ofDigitChars 10 (paddedDigits width number) 0 = number := by
  simp [paddedDigits, Nat.ofDigitChars_append, Nat.ofDigitChars_replicate_zero]

theorem readNumber_paddedDigits {number : Nat} (small : number < numberBound) (rest : List Char) :
    readNumber (paddedDigits fragmentDigits number ++ rest) = some (number, rest) := by
  have length := length_paddedDigits small
  have digits : (paddedDigits fragmentDigits number).all Char.isDigit = true :=
    List.all_eq_true.mpr fun _ member => isDigit_paddedDigits member
  have front : (paddedDigits fragmentDigits number ++ rest).take fragmentDigits =
      paddedDigits fragmentDigits number := List.take_left' length
  have back : (paddedDigits fragmentDigits number ++ rest).drop fragmentDigits = rest := List.drop_left' length
  simp only [readNumber, front, back, length, digits, value_paddedDigits, and_self, if_true]

theorem dropLead_append (lead rest : List Char) : dropLead lead (lead ++ rest) = some rest :=
  dropLead_eq_some.mpr rfl

namespace MarkStyle
variable (marks : MarkStyle)

def openLead : List Char := marks.opening.toList ++ "#fragment_".toList

def closeLead : List Char := marks.opening.toList ++ "fragment_".toList

theorem openMark_chars (number : Nat) : (marks.openMark number).toList =
    marks.openLead ++ (paddedDigits fragmentDigits number ++ marks.closing.toList) := by
  simp [openMark, fragmentName, openLead]

theorem closeMark_chars (number : Nat) : (marks.closeMark number).toList =
    marks.closeLead ++ (paddedDigits fragmentDigits number ++ ('#' :: marks.closing.toList)) := by
  simp [closeMark, fragmentName, closeLead]

theorem length_openMark {number : Nat} (small : number < numberBound) :
    (marks.openMark number).length = marks.markLength := by
  rw [markLength, ← String.length_toList, ← String.length_toList, openMark_chars, openMark_chars]
  simp [length_paddedDigits small, length_paddedDigits (show 0 < numberBound by decide)]

/-- A mark of the usual length has a number of the usual length. -/
theorem small_of_length_openMark {number : Nat} (uniform : (marks.openMark number).length = marks.markLength) :
    number < numberBound := by
  have zero := length_paddedDigits (show 0 < numberBound by decide)
  rw [markLength, ← String.length_toList, ← String.length_toList, openMark_chars, openMark_chars] at uniform
  simp only [List.length_append, zero] at uniform
  simp only [paddedDigits, List.length_append, List.length_replicate] at uniform
  exact (Nat.length_toDigits_le_iff (by decide) (by decide)).mp (show _ ≤ fragmentDigits by omega)

theorem length_closeMark {number : Nat} (small : number < numberBound) :
    (marks.closeMark number).length = marks.markLength := by
  rw [markLength, ← String.length_toList, ← String.length_toList, closeMark_chars, openMark_chars]
  simp [length_paddedDigits small, length_paddedDigits (show 0 < numberBound by decide), openLead, closeLead]
  omega

theorem readOpen_openMark {number : Nat} (small : number < numberBound) (rest : List Char) :
    marks.readOpen ((marks.openMark number).toList ++ rest) = some (number, rest) := by
  rw [openMark_chars, List.append_assoc, List.append_assoc]
  simp only [readOpen, openLead, dropLead_append, readNumber_paddedDigits small, Option.bind_eq_bind,
    Option.bind_some]
  rfl

theorem readClose_closeMark {number : Nat} (small : number < numberBound) (rest : List Char) :
    marks.readClose ((marks.closeMark number).toList ++ rest) = some (number, rest) := by
  rw [closeMark_chars, List.append_assoc, List.append_assoc]
  simp only [readClose, closeLead, dropLead_append, readNumber_paddedDigits small, Option.bind_eq_bind,
    Option.bind_some]
  rfl

theorem openLead_of_readOpen {text : List Char} {found : Nat × List Char}
    (read : marks.readOpen text = some found) : marks.openLead <+: text := by
  simp only [readOpen, Option.bind_eq_bind, Option.bind_eq_some_iff] at read
  obtain ⟨rest, lead, -⟩ := read
  exact ⟨rest, (dropLead_eq_some.mp lead).symm⟩

theorem closeLead_of_readClose {text : List Char} {found : Nat × List Char}
    (read : marks.readClose text = some found) : marks.closeLead <+: text := by
  simp only [readClose, Option.bind_eq_bind, Option.bind_eq_some_iff] at read
  obtain ⟨rest, lead, -⟩ := read
  exact ⟨rest, (dropLead_eq_some.mp lead).symm⟩

end MarkStyle

/-- A lead that ends with its only underscore. -/
def SelfFree (lead : List Char) : Prop := ∃ stem, lead = stem ++ ['_'] ∧ '_' ∉ stem

theorem MarkStyle.selfFree_openLead {marks : MarkStyle} (noUnderscore : '_' ∉ marks.opening.toList) :
    SelfFree marks.openLead :=
  ⟨marks.opening.toList ++ "#fragment".toList, by simp [openLead], by simpa using noUnderscore⟩

theorem MarkStyle.selfFree_closeLead {marks : MarkStyle} (noUnderscore : '_' ∉ marks.opening.toList) :
    SelfFree marks.closeLead :=
  ⟨marks.opening.toList ++ "fragment".toList, by simp [closeLead], by simpa using noUnderscore⟩

/-- Such a lead does not begin in front of itself in a text without it. -/
theorem SelfFree.not_prefix {lead front rest : List Char} (free : SelfFree lead) (absent : ¬ lead <:+: front)
    (nonempty : front ≠ []) : ¬ lead <+: front ++ (lead ++ rest) := by
  intro early
  by_cases short : lead.length ≤ front.length
  · exact absent (List.prefix_of_prefix_length_le early (List.prefix_append _ _) short).isInfix
  · obtain ⟨stem, shape, only⟩ := free
    obtain ⟨overlap, split⟩ := List.prefix_of_prefix_length_le (List.prefix_append _ _) early
      (Nat.le_of_not_le short)
    have longer := congrArg List.length split
    simp only [List.length_append] at longer
    have positive := List.length_pos_iff.mpr nonempty
    have begins : overlap <+: lead := by
      rw [← split] at early
      exact List.prefix_of_prefix_length_le ((List.prefix_append_right_inj front).mp early)
        (by rw [split]; exact List.prefix_append _ _) (by omega)
    have inStem : overlap <+: stem := by
      rw [shape] at begins longer
      refine List.prefix_of_prefix_length_le begins (List.prefix_append _ _) ?_
      simp only [List.length_append, List.length_singleton] at longer
      omega
    have last : '_' ∈ overlap := by
      have some : overlap ≠ [] := by
        rintro rfl
        exact short (Nat.le_of_eq longer.symm)
      obtain ⟨before, c, rfl⟩ : ∃ before c, overlap = before ++ [c] :=
        ⟨_, _, (List.dropLast_concat_getLast some).symm⟩
      have same := congrArg List.getLast? (split.trans shape)
      simp at same
      simp [same]
    exact only (inStem.mem last)

section Search
variable {read : List Char → Option (Nat × List Char)} {lead : List Char}

theorem findFirst_none {text : List Char} (leads : ∀ text found, read text = some found → lead <+: text)
    (absent : ¬ lead <:+: text) : findFirst read text = none := by
  have here : read text = none := by
    cases found : read text with
    | none => rfl
    | some value => exact absurd (leads text value found).isInfix absent
  induction text with
  | nil => simp [findFirst, here]
  | cons c rest ih =>
    have later : ¬ lead <:+: rest := fun inside => absent (inside.trans (List.suffix_cons c rest).isInfix)
    have none : read rest = none := by
      cases found : read rest with
      | none => rfl
      | some value => exact absurd (leads rest value found).isInfix later
    simp [findFirst, here, ih later none]

/-- The leftmost mark behind a text that does not hold its lead. -/
theorem findFirst_append {front marked after : List Char} {number : Nat}
    (leads : ∀ text found, read text = some found → lead <+: text) (free : SelfFree lead)
    (absent : ¬ lead <:+: front) (mark : read marked = some (number, after)) :
    findFirst read (front ++ marked) = some (front, number, after) := by
  induction front with
  | nil =>
    cases marked with
    | nil => simp [findFirst, mark]
    | cons c rest => simp [findFirst, mark]
  | cons c front ih =>
    have later : ¬ lead <:+: front := fun inside => absent (inside.trans (List.suffix_cons c front).isInfix)
    have here : read (c :: (front ++ marked)) = none := by
      cases found : read (c :: (front ++ marked)) with
      | none => rfl
      | some value =>
        obtain ⟨rest, rfl⟩ := leads marked _ mark
        exact absurd (leads _ value found) (free.not_prefix absent (List.cons_ne_nil c front))
    simp [findFirst, here, ih later]

end Search

end GrammarFlow
