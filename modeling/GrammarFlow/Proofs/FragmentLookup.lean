import Mathlib.Data.List.Basic
import GrammarFlow.Proofs.MarkRestoration

/-! Looking a place up in a file without marks. The copies lie apart in order, so at most the ends of two of
them meet in a place and the first one has it; wherever that copy sends the place, it stays inside the
fragment of the grammar. -/

namespace GrammarFlow

def Span.Within (inner outer : Span) : Prop :=
  inner.source = outer.source ∧ outer.start ≤ inner.start ∧ inner.stop ≤ outer.stop

instance (inner outer : Span) : Decidable (inner.Within outer) :=
  inferInstanceAs (Decidable (_ ∧ _ ∧ _))

theorem lineOffset?_le {text : List Char} {line start : Nat} (found : lineOffset? text line = some start) :
    start ≤ text.length := by
  induction text generalizing line start with
  | nil =>
    cases line with
    | zero => cases found; exact Nat.le_refl _
    | succ line => cases found
  | cons c rest ih =>
    cases line with
    | zero => cases found; exact Nat.zero_le _
    | succ line =>
      obtain ⟨before, there, rfl⟩ := Option.map_eq_some_iff.mp found
      exact Nat.succ_le_succ (ih there)

theorem lineLengthAt_le {text : List Char} {start : Nat} (inside : start ≤ text.length) :
    start + lineLengthAt text start ≤ text.length := by
  have kept : lineLengthAt text start ≤ (text.drop start).length :=
    (List.takeWhile_sublist _).length_le
  rw [List.length_drop] at kept
  omega

theorem alignedOffset?_le {generated grammar : List Char} {position offset : Nat}
    (aligned : alignedOffset? generated grammar position = some offset) : offset ≤ grammar.length := by
  simp only [alignedOffset?] at aligned
  split at aligned
  next =>
    cases aligned
    have := lineLengthAt_le (Nat.zero_le grammar.length)
    omega
  next =>
    obtain ⟨start, found, rfl⟩ := Option.map_eq_some_iff.mp aligned
    have := lineLengthAt_le (lineOffset?_le found)
    omega

namespace FragmentMap

theorem grammarSpan?_within {file : FragmentMap} {position : Nat} {copy : FragmentCopy}
    (found : file.fragmentAt? position = some copy) :
    ∃ span, file.grammarSpan? position = some span ∧ span.Within copy.grammar := by
  rw [grammarSpan?, found, Option.map_some]
  refine ⟨_, rfl, ?_⟩
  dsimp only
  split
  next => exact ⟨rfl, Nat.le_refl _, Nat.le_refl _⟩
  next offset aligned =>
    have inside := alignedOffset?_le aligned
    rw [copy.grammar.length_text] at inside
    have bound := copy.grammar.inside
    refine ⟨rfl, ?_, ?_⟩
    · simp only [Source.clampedSpan]
      omega
    · simp only [Source.clampedSpan, Span.stop]
      omega

theorem fragments_apart {name text : String} {marks : MarkStyle} {grammar : List Span} {file : FragmentMap}
    (stripped : strip name text marks grammar = .ok file) :
    file.fragments.Pairwise fun a b => a.generated.stop ≤ b.generated.start := by
  obtain ⟨regions, tail, -, -, -, fragments⟩ := regions_of_strip stripped
  rw [fragments]
  exact placeRegions_apart

/-- A lookup finds the first copy that has the place inside it or at either end. -/
theorem fragmentAt?_eq_first {file : FragmentMap} {position : Nat} {found : FragmentCopy} :
    file.fragmentAt? position = some found ↔
      (found.generated.start ≤ position ∧ position ≤ found.generated.stop) ∧
        ∃ before after, file.fragments = before ++ found :: after ∧ ∀ other ∈ before,
          ¬ (other.generated.start ≤ position ∧ position ≤ other.generated.stop) := by
  simp only [fragmentAt?, List.find?_eq_some_iff_append, Bool.and_eq_true, decide_eq_true_eq, Bool.not_eq_true',
    ← Bool.not_eq_true]

/-- A copy that goes on behind a place has it when it starts at or before the place and no copy ends there. -/
theorem fragmentAt?_eq_some_iff {file : FragmentMap} {position : Nat} {copy : FragmentCopy}
    (apart : file.fragments.Pairwise fun a b => a.generated.stop ≤ b.generated.start)
    (member : copy ∈ file.fragments) (goesOn : position < copy.generated.stop) :
    file.fragmentAt? position = some copy ↔
      copy.generated.start ≤ position ∧ ∀ other ∈ file.fragments, other.generated.stop ≠ position := by
  have forward (span : Span) : span.start ≤ span.stop := Nat.le_add_right _ _
  constructor
  · intro found
    obtain ⟨holds, before, after, parts, passed⟩ := fragmentAt?_eq_first.mp found
    rw [parts] at apart
    obtain ⟨-, later, -⟩ := List.pairwise_append.mp apart
    refine ⟨holds.1, ?_⟩
    intro other inside ends
    rw [parts] at inside
    rcases List.mem_append.mp inside with earlier | inside
    · have missed := passed other earlier
      have := forward other.generated
      omega
    · rcases List.mem_cons.mp inside with rfl | inside
      · omega
      · have := (List.pairwise_cons.mp later).1 other inside
        have := forward other.generated
        omega
  · rintro ⟨reached, separate⟩
    obtain ⟨before, after, parts⟩ := List.append_of_mem member
    rw [parts] at apart
    obtain ⟨-, -, ordered⟩ := List.pairwise_append.mp apart
    refine fragmentAt?_eq_first.mpr ⟨⟨reached, Nat.le_of_lt goesOn⟩, before, after, parts, ?_⟩
    intro other earlier
    have := ordered other earlier copy List.mem_cons_self
    have := separate other (by simp [parts, earlier])
    omega

/-- A place in a copy is shown in the fragment of that copy, but for the first place of the copy if another
copy ends there: of the copies that end there the first one has it. -/
theorem grammarSpan?_of_copy {name text : String} {marks : MarkStyle} {grammar : List Span} {file : FragmentMap}
    {copy : FragmentCopy} {position : Nat} (stripped : strip name text marks grammar = .ok file)
    (member : copy ∈ file.fragments) (reached : copy.generated.start ≤ position)
    (goesOn : position < copy.generated.stop) :
    ∃ shown ∈ file.fragments, ∃ span, file.grammarSpan? position = some span ∧ span.Within shown.grammar ∧
      (shown = copy ↔ ∀ other ∈ file.fragments, other.generated.stop ≠ position) ∧
      (shown ≠ copy → position = copy.generated.start ∧ shown.generated.stop = position) := by
  have apart := fragments_apart stripped
  have some : (file.fragmentAt? position).isSome = true := by
    rw [fragmentAt?, List.find?_isSome]
    exact ⟨copy, member, by simpa using ⟨reached, Nat.le_of_lt goesOn⟩⟩
  obtain ⟨shown, here⟩ := Option.isSome_iff_exists.mp some
  obtain ⟨⟨-, ends⟩, before, after, parts, passed⟩ := fragmentAt?_eq_first.mp here
  obtain ⟨span, inGrammar, within⟩ := grammarSpan?_within here
  refine ⟨shown, by simp [parts], span, inGrammar, within, ?_, ?_⟩
  · have owned := fragmentAt?_eq_some_iff apart member goesOn
    rw [here, Option.some_inj] at owned
    rw [owned, and_iff_right reached]
  · intro different
    rw [parts] at apart member
    obtain ⟨-, ordered, -⟩ := List.pairwise_append.mp apart
    rcases List.mem_append.mp member with earlier | member
    · exact absurd ⟨reached, Nat.le_of_lt goesOn⟩ (passed copy earlier)
    · rcases List.mem_cons.mp member with same | later
      · exact absurd same.symm different
      · have := (List.pairwise_cons.mp ordered).1 copy later
        omega

/-- Behind an action and an empty one that touch it, the second place of a third action. -/
theorem grammarSpan?_of_third_copy :
    let source : Source := ⟨"G.g4", "a : \x7bgo();\x7d \x7b\x7d \x7bon();\x7d ;"⟩
    let actions : List Span := [⟨source, 5, 5, by decide⟩, ⟨source, 13, 0, by decide⟩, ⟨source, 16, 5, by decide⟩]
    let text := "/*#fragment_000*/go();/*fragment_000#*//*#fragment_001*//*fragment_001#*//*#fragment_002*/on();" ++
      "/*fragment_002#*/"
    ∃ file span, strip "P.java" text default actions = .ok file ∧ file.grammarSpan? 6 = some span ∧
      span.Within ⟨source, 16, 5, by decide⟩ := by
  intro source actions text
  let generated : Source := ⟨"P.java", "go();on();"⟩
  let first : FragmentCopy := ⟨0, ⟨generated, 0, 5, by decide⟩, ⟨source, 5, 5, by decide⟩⟩
  let empty : FragmentCopy := ⟨1, ⟨generated, 5, 0, by decide⟩, ⟨source, 13, 0, by decide⟩⟩
  let third : FragmentCopy := ⟨2, ⟨generated, 5, 5, by decide⟩, ⟨source, 16, 5, by decide⟩⟩
  let file : FragmentMap := ⟨generated, [first, empty, third]⟩
  have stripped : strip "P.java" text default actions = .ok file := by decide +kernel
  have member : third ∈ file.fragments := by simp [file]
  have reached : third.generated.start ≤ 6 := by decide
  have goesOn : 6 < third.generated.stop := by decide
  obtain ⟨shown, -, span, inGrammar, within, owned, -⟩ := grammarSpan?_of_copy stripped member reached goesOn
  obtain rfl := owned.mpr (by decide)
  exact ⟨file, span, stripped, inGrammar, within⟩

/-- Of two actions that touch, the first place of the second one is shown at the end of the first. -/
theorem touching_copies_shown_in_first :
    let source : Source := ⟨"G.g4", "a : \x7bgo();\x7d \x7bon();\x7d ;"⟩
    let actions : List Span := [⟨source, 5, 5, by decide⟩, ⟨source, 13, 5, by decide⟩]
    let text := "/*#fragment_000*/go();/*fragment_000#*//*#fragment_001*/on();/*fragment_001#*/"
    ∃ file, ∃ copy ∈ file.fragments, ∃ span, strip "P.java" text default actions = .ok file ∧
      copy.generated.start ≤ 5 ∧ 5 < copy.generated.stop ∧ file.grammarSpan? 5 = some span ∧
      ¬ span.Within copy.grammar := by
  intro source actions text
  let generated : Source := ⟨"P.java", "go();on();"⟩
  let first : FragmentCopy := ⟨0, ⟨generated, 0, 5, by decide⟩, ⟨source, 5, 5, by decide⟩⟩
  let second : FragmentCopy := ⟨1, ⟨generated, 5, 5, by decide⟩, ⟨source, 13, 5, by decide⟩⟩
  refine ⟨⟨generated, [first, second]⟩, second, List.mem_cons_of_mem _ List.mem_cons_self,
    ⟨source, 10, 0, by decide⟩, ?_⟩
  decide +kernel

end FragmentMap

end GrammarFlow
