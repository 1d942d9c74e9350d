import GrammarFlow.Marks.LookUpByOffset
import GrammarFlow.Proofs.FragmentLookup

/-! Looking a place up, offset by offset, never fails. A line of a copy begins at or before every place on it, and
a line that its fragment has too begins inside the fragment, so every part that is looked at is there. -/

namespace GrammarFlow

section Lines
variable {text : List Char} {offset line : Nat}

theorem lineFeedsFrom_cons (offset : Nat) (c : Char) (rest : List Char) : lineFeedsFrom offset (c :: rest) =
    if c = '\n' then offset :: lineFeedsFrom (offset + 1) rest else lineFeedsFrom (offset + 1) rest := by
  rw [lineFeedsFrom, List.zipIdx_cons, List.filter_cons]
  by_cases feed : c = '\n'
  · simp [feed, lineFeedsFrom]
  · simp [feed, lineFeedsFrom]

/-- Behind a line feed there begins a line, wherever the text itself begins. -/
theorem lineFeedsFrom_line (text : List Char) (before offset : Nat) :
    (lineFeedsFrom offset text)[before]?.map (· + 1) = (lineOffset? text (before + 1)).map (· + offset) := by
  induction text generalizing before offset with
  | nil => rfl
  | cons c rest ih =>
    rw [lineFeedsFrom_cons, lineOffset?, Option.map_map]
    have shift : ((· + offset) ∘ (· + 1)) = (· + (offset + 1)) := by
      funext start
      simp only [Function.comp_apply]
      omega
    rw [shift]
    by_cases feed : c = '\n'
    · rw [if_pos feed, if_pos feed]
      cases before with
      | zero =>
        have first : lineOffset? rest 0 = some 0 := by cases rest <;> rfl
        rw [first]
        exact congrArg some (Nat.zero_add (offset + 1)).symm
      | succ before => exact ih before (offset + 1)
    · rw [if_neg feed, if_neg feed]
      exact ih before (offset + 1)

theorem lineStartByFeeds?_eq (text : List Char) (line : Nat) : lineStartByFeeds? text line = lineOffset? text line := by
  cases line with
  | zero => cases text <;> rfl
  | succ before =>
    have feeds := lineFeedsFrom_line text before 0
    simp only [Nat.add_zero, Option.map_id'] at feeds
    exact feeds

theorem lineLengthAt?_eq (inside : offset ≤ text.length) :
    lineLengthAt? text offset = some (lineLengthAt text offset) := by
  have behind : Text.cut? text offset text.length = some (text.drop offset) := by
    rw [Text.cut?_of_inside inside (Nat.le_refl _), List.take_of_length_le (Nat.le_of_eq List.length_drop)]
  have length (line : List Char) : (line.findIdx? fun c => c = '\n' || c = '\r').getD line.length =
      (line.takeWhile fun c => c ≠ '\n' && c ≠ '\r').length := by
    rw [← List.findIdx_eq_getD_findIdx?]
    induction line with
    | nil => rfl
    | cons c line ih =>
      rw [List.findIdx_cons, ih]
      by_cases feed : c = '\n' <;> by_cases break' : c = '\r' <;> simp [feed, break']
  rw [lineLengthAt?, behind, Text.minus?_of_le inside, ← List.length_drop]
  exact congrArg some (length _)

theorem lineOffset?_reached (text : List Char) (offset : Nat) :
    ∃ start ≤ offset, lineOffset? text ((text.take offset).count '\n') = some start := by
  induction text generalizing offset with
  | nil => exact ⟨0, Nat.zero_le _, by simp [lineOffset?]⟩
  | cons c rest ih =>
    cases offset with
    | zero => exact ⟨0, Nat.le_refl _, rfl⟩
    | succ offset =>
      obtain ⟨start, before, there⟩ := ih offset
      rw [List.take_succ_cons, List.count_cons]
      by_cases feed : c = '\n'
      · refine ⟨start + 1, Nat.succ_le_succ before, ?_⟩
        rw [feed, beq_self_eq_true, if_pos rfl, lineOffset?, if_pos rfl, there, Option.map_some]
      · rw [if_neg (by simpa using feed), Nat.add_zero]
        cases lines : (rest.take offset).count '\n' with
        | zero => exact ⟨0, Nat.zero_le _, rfl⟩
        | succ line =>
          refine ⟨start + 1, Nat.succ_le_succ before, ?_⟩
          rw [lineOffset?, if_neg feed, ← lines, there, Option.map_some]

end Lines

theorem alignedByOffset?_eq {generated : List Char} (grammar : List Char) {inside : Nat}
    (there : inside ≤ generated.length) :
    alignedByOffset? generated grammar inside = some (alignedOffset? generated grammar inside) := by
  have before := Text.cut?_of_inside (Nat.zero_le inside) there
  obtain ⟨lineStart, begun, line⟩ := lineOffset?_reached generated inside
  have generatedLine := lineLengthAt?_eq (Nat.le_trans begun there)
  rw [List.drop_zero, Nat.sub_zero] at before
  simp only [alignedByOffset?, alignedOffset?, before, lineStartByFeeds?_eq, line,
    Option.getD_some, Text.minus?_of_le begun, Option.bind_eq_bind, Option.bind_some]
  cases lines : (generated.take inside).count '\n' with
  | zero =>
    rw [if_pos rfl, lineLengthAt?_eq (Nat.zero_le grammar.length)]
    rfl
  | succ later =>
    rw [if_neg (Nat.succ_ne_zero later)]
    cases grammarLine : lineOffset? grammar (later + 1) with
    | none => rfl
    | some grammarStart =>
      simp only [generatedLine, lineLengthAt?_eq (lineOffset?_le grammarLine), Option.bind_some, Option.map_some]
      have column (column generated grammar : Nat) :
          (max ((column : Int) - (generated - grammar)) 0).toNat = column + grammar - generated := by omega
      rw [column]
      rfl

/-- A position inside a copy or at either end of it. -/
def FragmentCopy.Holds (copy : FragmentCopy) (position : Nat) : Prop :=
  copy.generated.start ≤ position ∧ position ≤ copy.generated.stop

instance (copy : FragmentCopy) (position : Nat) : Decidable (copy.Holds position) :=
  inferInstanceAs (Decidable (_ ∧ _))

namespace FragmentMap

theorem lookUp?_eq (file : FragmentMap) (position : Nat) :
    file.lookUp? position = some (file.grammarSpan? position) := by
  rw [lookUp?, grammarSpan?]
  cases here : file.fragmentAt? position with
  | none => rfl
  | some fragment =>
    obtain ⟨⟨begun, ends⟩, -⟩ := fragmentAt?_eq_first.mp here
    have inside : position - fragment.generated.start ≤ fragment.generated.text.toList.length := by
      rw [fragment.generated.length_text]
      simp only [Span.stop] at ends
      omega
    rw [Option.map_some]
    simp only [Text.minus?_of_le begun, alignedByOffset?_eq _ inside, Option.bind_eq_bind, Option.bind_some]
    cases alignedOffset? fragment.generated.text.toList fragment.grammar.text.toList
        (position - fragment.generated.start) with
    | none => rfl
    | some offset =>
      simp only [Source.clampedSpan?_eq, Option.bind_some]
      rfl

/-- Whatever the copies and their fragments are, a lookup looks at nothing that is not there. It finds a place
exactly if the position lies in a copy or at one of its ends, and then it shows the first such copy, within the
fragment of the grammar that this is a copy of. -/
theorem lookup_stays_in_fragment {name text : String} {marks : MarkStyle} {grammar : List Span} {file : FragmentMap}
    (stripped : strip name text marks grammar = .ok file) (position : Nat) :
    ∃ shown, file.lookUp? position = some shown ∧ shown = file.grammarSpan? position ∧
      (shown.isSome = true ↔ ∃ copy ∈ file.fragments, copy.Holds position) ∧
      ∀ before copy after, file.fragments = before ++ copy :: after → copy.Holds position →
        (∀ other ∈ before, ¬other.Holds position) →
        grammar[copy.number]? = some copy.grammar ∧ ∃ span, shown = some span ∧ span.Within copy.grammar := by
  refine ⟨_, file.lookUp?_eq position, rfl, ?found, ?inside⟩
  case found =>
    rw [grammarSpan?, Option.isSome_map, fragmentAt?, List.find?_isSome]
    simp only [Bool.and_eq_true, decide_eq_true_iff, FragmentCopy.Holds]
  case inside =>
    intro before copy after parts holds passed
    obtain ⟨regions, -, -, -, -, fragments⟩ := regions_of_strip stripped
    have among : copy ∈ file.fragments := by simp [parts]
    rw [fragments] at among
    obtain ⟨-, known, -⟩ := placeRegions_known copy among
    exact ⟨known, grammarSpan?_within (fragmentAt?_eq_first.mpr ⟨holds, before, after, parts, passed⟩)⟩

/-- A copy with carriage returns, longer lines and one line more than its fragment, looked up on its second line
and behind its end. -/
theorem lookup_in_longer_copy :
    let source : Source := ⟨"G.g4", "a : \x7bx;\r\n y\x7d ;"⟩
    let action : Span := ⟨source, 5, 6, by decide⟩
    let text := "/*#fragment_000*/go\r();\r\n  on();\nend/*fragment_000#*/"
    ∃ file span, strip "P.java" text default [action] = .ok file ∧ file.lookUp? 12 = some (some span) ∧
      span.Within action ∧ file.lookUp? 20 = some none := by
  intro source action text
  let generated : Source := ⟨"P.java", "go\r();\r\n  on();\nend"⟩
  let copy : FragmentCopy := ⟨0, ⟨generated, 0, 19, by decide⟩, action⟩
  let file : FragmentMap := ⟨generated, [copy]⟩
  have stripped : strip "P.java" text default [action] = .ok file := by decide +kernel
  obtain ⟨_, looked, -, -, shown⟩ := lookup_stays_in_fragment stripped 12
  obtain ⟨-, span, rfl, within⟩ := shown [] copy [] rfl (by decide) nofun
  obtain ⟨missed, lookedBehind, -, found, -⟩ := lookup_stays_in_fragment stripped 20
  have nothing : missed = none := by
    rw [← Option.not_isSome_iff_eq_none, found]
    rintro ⟨other, member, -, reached⟩
    obtain rfl := List.mem_singleton.mp member
    exact absurd reached (by decide)
  exact ⟨file, span, stripped, looked, within, nothing ▸ lookedBehind⟩

end FragmentMap

end GrammarFlow
