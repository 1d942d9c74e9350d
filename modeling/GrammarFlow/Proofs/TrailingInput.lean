import Mathlib.Data.Nat.SuccPred
import GrammarFlow.Proofs.QuotedTokens
import GrammarFlow.Proofs.SyntaxErrors
import GrammarFlow.Transcript.LookBack

/-! Messages that quote all the input since the parser's last decision. The error ends where that input ends: the
text is searched backwards for an occurrence that has begun where the error was found, and the search never
leaves the text. -/

namespace GrammarFlow

/-- The input stands in the source from `first` on, has begun at `start` and goes on behind it. -/
structure Source.HasAcross (source : Source) (start : Nat) (input : String) (first : Nat) : Prop where
  there : source.HasAt first input
  begun : first ≤ start
  unfinished : start < first + input.length

instance (source : Source) (start : Nat) (input : String) (first : Nat) :
    Decidable (source.HasAcross start input first) :=
  decidable_of_iff (source.HasAt first input ∧ first ≤ start ∧ start < first + input.length)
    ⟨fun ⟨there, begun, unfinished⟩ => ⟨there, begun, unfinished⟩,
      fun ⟨there, begun, unfinished⟩ => ⟨there, begun, unfinished⟩⟩

section Search
variable {source : Source} {text input : List Char} {start : Nat}

theorem reversed_range_succ (last : Nat) : (List.range (last + 1)).reverse = last :: (List.range last).reverse := by
  rw [List.range_succ, List.reverse_append, List.reverse_singleton, List.singleton_append]

/-- A search from an offset backwards ends at the greatest offset that has the property. -/
theorem find?_reversed_range {holds : Nat → Bool} {last found : Nat}
    (greatest : IsGreatest {offset | offset < last ∧ holds offset = true} found) :
    (List.range last).reverse.find? holds = some found := by
  induction last with
  | zero => exact absurd greatest.1.1 (Nat.not_lt_zero found)
  | succ last ih =>
    obtain ⟨⟨reached, there⟩, latest⟩ := greatest
    rw [reversed_range_succ, List.find?_cons]
    cases here : holds last with
    | true =>
      have same : found = last := Nat.le_antisymm (Nat.le_of_lt_succ reached) (latest ⟨Nat.lt_succ_self last, here⟩)
      rw [same]
    | false =>
      have other : found ≠ last := by
        rintro rfl
        rw [there] at here
        cases here
      refine ih ⟨⟨by omega, there⟩, fun offset ⟨before, stands⟩ => latest ⟨Nat.lt_succ_of_lt before, stands⟩⟩

theorem lookBack?_eq {length last : Nat} (inside : last + length ≤ text.length) :
    lookBack? text input length last =
      some ((List.range (last + 1)).reverse.find? fun candidate => (text.drop candidate).take length = input) := by
  induction last with
  | zero =>
    have part := Text.cut?_of_inside (Nat.zero_le length) (by omega : length ≤ text.length)
    by_cases same : text.take length = input
    all_goals simp [lookBack?, part, same]
  | succ earlier ih =>
    have part := Text.cut?_of_inside (Nat.le_add_right (earlier + 1) length) inside
    rw [Nat.add_sub_cancel_left] at part
    rw [reversed_range_succ, List.find?_cons]
    by_cases same : (text.drop (earlier + 1)).take length = input
    · simp [lookBack?, part, same]
    · simp [lookBack?, part, same, ih (by omega)]

/-- What is left behind `start` of something that ends at `stop`, if there is anything. -/
private theorem minus?_filter (start stop length : Nat) :
    ((Text.minus? stop start).filter (0 < ·)).getD length = if start < stop then stop - start else length := by
  by_cases behind : start < stop
  · have positive : 0 < stop - start := Nat.sub_pos_of_lt behind
    rw [Text.minus?_of_le (Nat.le_of_lt behind), if_pos behind, Option.filter_some_pos (by simpa using positive),
      Option.getD_some]
  · rcases Nat.eq_or_lt_of_le (Nat.le_of_not_lt behind) with same | before
    · rw [Text.minus?_of_le (Nat.le_of_eq same.symm), if_neg behind, same, Nat.sub_self]
      rfl
    · rw [Text.minus?_of_lt before, if_neg behind]
      rfl

theorem reach?_eq (text : List Char) (start : Nat) (input : List Char) :
    reach? text start input = some (reach text start input) := by
  simp only [reach?, reach]
  split
  next => rfl
  next short =>
    have short := Nat.le_of_not_lt short
    rw [Text.minus?_of_le short]
    simp only [Option.pure_def, Option.bind_eq_bind, Option.bind_some]
    rw [lookBack?_eq (by omega), Option.bind_some]
    split
    next absent => rw [absent]; rfl
    next candidate found => rw [found, Option.bind_some, minus?_filter]

/-- Whatever the message and wherever the error was found, nothing is looked at that is not there. -/
theorem errorSpan?_eq (source : Source) (start : Nat) (message : String) :
    errorSpan? source start message = some (errorSpan source start message) := by
  simp only [errorSpan?, errorSpan]
  cases Clue.ofMessage message.toList with
  | none => exact source.clampedSpan?_eq _ _
  | some clue =>
    cases clue with
    | token quoted => exact source.clampedSpan?_eq _ _
    | missing => exact source.clampedSpan?_eq _ _
    | trailingInput quoted =>
      by_cases noText : quotedLength (unquote quoted) = 0
      all_goals
        simp only [noText, if_true, if_false, reach?_eq, Option.bind_eq_bind, Option.bind_some, source.clampedSpan?_eq]

theorem take_drop_eq_iff {offset : Nat} :
    (text.drop offset).take input.length = input ↔ input <+: text.drop offset := by
  rw [List.prefix_iff_eq_take, eq_comm]

theorem reach_of_latest {first : Nat} (notEnd : input ≠ "<EOF>".toList)
    (latest : IsGreatest {offset | offset ≤ start ∧ input <+: text.drop offset} first)
    (unfinished : start < first + input.length) : reach text start input = first + input.length - start := by
  obtain ⟨⟨begun, stands⟩, later⟩ := latest
  have inside := stands.length_le
  rw [List.length_drop] at inside
  have length : quotedLength input = input.length := if_neg notEnd
  have greatest : IsGreatest {offset | offset < min start (text.length - input.length) + 1 ∧
      decide ((text.drop offset).take input.length = input) = true} first := by
    refine ⟨⟨by omega, decide_eq_true (take_drop_eq_iff.mpr stands)⟩, ?_⟩
    rintro offset ⟨reached, there⟩
    exact later ⟨by omega, take_drop_eq_iff.mp (of_decide_eq_true there)⟩
  simp only [reach, length, find?_reversed_range greatest, if_pos unfinished]
  exact if_neg (by omega)

theorem reach_of_absent (notEnd : input ≠ "<EOF>".toList)
    (absent : ∀ first ≤ start, input <+: text.drop first → first + input.length ≤ start) :
    reach text start input = input.length := by
  have length : quotedLength input = input.length := if_neg notEnd
  simp only [reach, length]
  split
  next => rfl
  next =>
    split
    next => rfl
    next first found =>
      have begun := List.mem_range.mp (List.mem_reverse.mp (List.mem_of_find?_eq_some found))
      have same := List.find?_some found
      have stands := take_drop_eq_iff.mp (of_decide_eq_true same)
      exact if_neg (Nat.not_lt_of_le (absent first (by omega) stands))

end Search

namespace Source
variable {source : Source} {start first : Nat} {input : String}

theorem hasAt_iff (nonempty : input ≠ "") : source.HasAt first input ↔ input.toList <+: source.chars.drop first := by
  refine and_iff_right_of_imp fun stands => ?_
  by_contra outside
  rw [List.drop_eq_nil_of_le (Nat.le_of_not_le outside), List.prefix_nil, String.toList_eq_nil_iff] at stands
  exact nonempty stands

/-- An occurrence that begins after one that goes on behind `start` goes on behind it as well. -/
theorem latest_of_latestAcross (nonempty : input ≠ "")
    (latest : IsGreatest {first | source.HasAcross start input first} first) :
    IsGreatest {offset | offset ≤ start ∧ input.toList <+: source.chars.drop offset} first := by
  obtain ⟨⟨there, begun, unfinished⟩, later⟩ := latest
  refine ⟨⟨begun, there.2⟩, fun offset ⟨reached, stands⟩ => ?_⟩
  by_contra behind
  exact behind (later ⟨(hasAt_iff nonempty).mpr stands, reached, by omega⟩)

end Source

theorem Clue.ofMessage_noViableAlternative (quoted : List Char) :
    ofMessage ("no viable alternative at input ".toList ++ quoted) = some (trailingInput quoted) := by
  have notRecognition : dropLead "token recognition error at: ".toList
      ("no viable alternative at input ".toList ++ quoted) = none := by simp [dropLead]
  have notMissing : "missing ".toList.isPrefixOf ("no viable alternative at input ".toList ++ quoted) = false := by
    simp [List.isPrefixOf]
  have notExtraneous : dropLead "extraneous input ".toList
      ("no viable alternative at input ".toList ++ quoted) = none := by simp [dropLead]
  have notMismatched : dropLead "mismatched input ".toList
      ("no viable alternative at input ".toList ++ quoted) = none := by simp [dropLead]
  rw [ofMessage, notRecognition, notExtraneous, notMismatched, dropLead_append]
  simp only [notMissing]
  rfl

theorem errorSpan_noViableAlternative {source : Source} {start : Nat} {input : String} (nonempty : input ≠ "")
    (noBackslash : '\\' ∉ input.toList) (notEnd : input ≠ "<EOF>") :
    errorSpan source start ("no viable alternative at input " ++ quoteToken input) =
      source.clampedSpan start (start + reach source.chars start input.toList) := by
  have length : quotedLength input.toList ≠ 0 := by
    rw [quotedLength, if_neg (mt String.toList_inj.mp notEnd), Ne, List.length_eq_zero_iff, String.toList_eq_nil_iff]
    exact nonempty
  have clue := Clue.ofMessage_noViableAlternative (quoteToken input).toList
  rw [← String.toList_append] at clue
  have unquoted : unquote (quoteToken input).toList = input.toList := by
    rw [quoteToken, String.toList_ofList, unquote_quoted noBackslash]
  simp only [errorSpan, clue, unquoted, if_neg length]

/-- The error begins where it was found. It ends with the latest occurrence of the quoted input that has begun
there and goes on behind; without one, it is as long as the input, up to the end of the source. -/
theorem trailing_input_covered {source : Source} {start : Nat} {input : String} (inside : start ≤ source.length)
    (nonempty : input ≠ "") (noBackslash : '\\' ∉ input.toList) (notEnd : input ≠ "<EOF>") :
    let message := "no viable alternative at input " ++ quoteToken input
    let span := errorSpan source start message
    let across := {first | source.HasAcross start input first}
    errorSpan? source start message = some span ∧ span.source = source ∧ span.start = start ∧
      (across.Nonempty → ∃ first, IsGreatest across first ∧ span.stop = first + input.length) ∧
      (¬ across.Nonempty → span.stop = min (start + input.length) source.length) := by
  intro message span across
  have same : span = source.clampedSpan start (start + reach source.chars start input.toList) :=
    errorSpan_noViableAlternative nonempty noBackslash notEnd
  have stop : span.stop = min (start + reach source.chars start input.toList) source.length := by
    rw [same, source.clampedSpan_stop (Nat.le_add_right _ _)]
  have notEnd : input.toList ≠ "<EOF>".toList := mt String.toList_inj.mp notEnd
  refine ⟨errorSpan?_eq source start message, rfl, errorSpan_start message inside, ?_, ?_⟩
  · intro some
    have bounded : BddAbove across := ⟨start, fun first across => across.begun⟩
    obtain ⟨first, latest⟩ := bounded.exists_isGreatest_of_nonempty some
    obtain ⟨there, begun, unfinished⟩ := latest.1
    have forward : start + (first + input.length - start) = first + input.length :=
      Nat.add_sub_cancel' (Nat.le_of_lt unfinished)
    rw [← String.length_toList] at unfinished
    refine ⟨first, latest, ?_⟩
    rw [stop, reach_of_latest notEnd (Source.latest_of_latestAcross nonempty latest) unfinished, String.length_toList,
      forward, Nat.min_eq_left there.inside]
  · intro none
    have absent : ∀ first ≤ start, input.toList <+: source.chars.drop first → first + input.toList.length ≤ start := by
      intro first begun stands
      by_contra unfinished
      rw [String.length_toList] at unfinished
      exact none ⟨first, (Source.hasAt_iff nonempty).mpr stands, begun, Nat.lt_of_not_le unfinished⟩
    rw [stop, reach_of_absent notEnd absent, String.length_toList]

/-- Of two occurrences that overlap, the later one counts; behind both of them none does. -/
theorem overlapping_inputs_covered :
    let source : Source := ⟨"input.txt", "ab\nab\nab;"⟩
    let span (start : Nat) := errorSpan source start "no viable alternative at input 'ab\\nab'"
    8 ≤ source.length ∧ "ab\nab" ≠ "" ∧ '\\' ∉ "ab\nab".toList ∧ "ab\nab" ≠ "<EOF>" ∧
      source.HasAcross 3 "ab\nab" 0 ∧ (span 3).start = 3 ∧ (span 3).stop = 8 ∧
      (∀ first, ¬ source.HasAcross 8 "ab\nab" first) ∧ (span 8).start = 8 ∧ (span 8).stop = 9 := by
  intro source span
  have inside : 8 ≤ source.length := by decide
  have noBackslash : '\\' ∉ "ab\nab".toList := by decide
  have overlapped := trailing_input_covered (by omega : 3 ≤ source.length) (by decide : "ab\nab" ≠ "") noBackslash
    (by decide)
  have passed := trailing_input_covered inside (by decide : "ab\nab" ≠ "") noBackslash (by decide)
  have early : source.HasAcross 3 "ab\nab" 0 := by decide +kernel
  have late : source.HasAcross 3 "ab\nab" 3 := by decide +kernel
  have none (first : Nat) : ¬ source.HasAcross 8 "ab\nab" first := by
    have passedBy : ∀ first < 9, ¬ source.HasAcross 8 "ab\nab" first := by decide +kernel
    exact fun across => passedBy first (Nat.lt_succ_of_le across.begun) across
  obtain ⟨-, -, start, later, -⟩ := overlapped
  obtain ⟨first, latest, stop⟩ := later ⟨3, late⟩
  have last : first = 3 := Nat.le_antisymm latest.1.begun (latest.2 late)
  obtain ⟨-, -, start', -, absent⟩ := passed
  refine ⟨inside, by decide, noBackslash, by decide, early, start, ?_, none, start', ?_⟩
  · exact stop.trans (by rw [last]; rfl)
  · exact (absent fun ⟨first, across⟩ => none first across).trans (by decide)

end GrammarFlow
