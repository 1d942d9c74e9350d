import GrammarFlow.Proofs.MarkRegions
import GrammarFlow.Proofs.SourceSpans

/-! A place in a verbatim copy of a fragment is taken back to the same place of the fragment. The copy that
a position belongs to is the right one as long as text lies between the copies, and within the copy lines
and columns agree with those of the fragment. -/

namespace GrammarFlow

private theorem lineOffset?_first (text : List Char) {position : Nat}
    (first : (text.take position).count '\n' = 0) :
    ∃ start, lineOffset? text 0 = some start ∧ start ≤ position ∧
      ∀ c ∈ (text.drop start).take (position - start), c ≠ '\n' := by
  refine ⟨0, by cases text <;> rfl, Nat.zero_le _, ?_⟩
  rintro c member rfl
  exact List.count_eq_zero.mp first member

/-- Counting the line feeds in front of a position finds the start of its line. -/
theorem lineOffset?_count (text : List Char) (position : Nat) :
    ∃ start, lineOffset? text ((text.take position).count '\n') = some start ∧ start ≤ position ∧
      ∀ c ∈ (text.drop start).take (position - start), c ≠ '\n' := by
  induction text generalizing position with
  | nil => simpa only [List.take_nil, List.count_nil] using lineOffset?_first [] (by simp)
  | cons c rest ih =>
    cases line : ((c :: rest).take position).count '\n' with
    | zero => exact lineOffset?_first _ line
    | succ before =>
      obtain _ | position := position
      · cases line
      obtain ⟨start, found, reached, oneLine⟩ := ih position
      have remaining : (if c = '\n' then before else before + 1) = (rest.take position).count '\n' := by
        rw [List.take_succ_cons, List.count_cons] at line
        by_cases ends : c = '\n'
        · simp only [ends, beq_self_eq_true, if_true] at line ⊢
          omega
        · simp only [beq_iff_eq, ends, if_false] at line ⊢
          omega
      refine ⟨start + 1, ?_, Nat.succ_le_succ reached, ?_⟩
      · rw [lineOffset?, remaining, found, Option.map_some]
      · simpa using oneLine

private theorem le_length_takeWhile {α : Type} {holds : α → Bool} {items : List α} {count : Nat}
    (inside : count ≤ items.length) (all : ∀ item ∈ items.take count, holds item = true) :
    count ≤ (items.takeWhile holds).length := by
  have split : items.takeWhile holds = items.take count ++ (items.drop count).takeWhile holds := by
    rw [← List.takeWhile_append_of_pos all, List.take_append_drop]
  rw [split, List.length_append, List.length_take]
  omega

/-- A line goes on at least to a position that no terminator lies in front of. -/
theorem le_lineLengthAt {text : List Char} {start position : Nat} (reached : start ≤ position)
    (inside : position ≤ text.length) (noReturn : '\r' ∉ text)
    (oneLine : ∀ c ∈ (text.drop start).take (position - start), c ≠ '\n') :
    position - start ≤ lineLengthAt text start := by
  refine le_length_takeWhile (by simp only [List.length_drop]; omega) ?_
  intro c member
  have other : c ≠ '\r' := by
    rintro rfl
    exact noReturn (List.mem_of_mem_drop (List.mem_of_mem_take member))
  simp [oneLine c member, other]

theorem alignedOffset?_self {text : List Char} {position : Nat} (inside : position ≤ text.length)
    (noReturn : '\r' ∉ text) : alignedOffset? text text position = some position := by
  obtain ⟨start, found, reached, oneLine⟩ := lineOffset?_count text position
  have column := le_lineLengthAt reached inside noReturn oneLine
  simp only [alignedOffset?, found, Option.getD_some]
  split
  next first =>
    have : start = 0 := by
      rw [first] at found
      cases text <;> exact (Option.some.inj found).symm
    subst this
    simp only [Nat.sub_zero] at column ⊢
    rw [Nat.min_eq_left column]
  next =>
    simp only [Option.map_some]
    congr 1
    omega

theorem joinRegions_append (earlier later : List Region) (region : Region) (tail : List Char) :
    joinRegions (earlier ++ region :: later) tail =
      joinRegions earlier region.before ++ (region.body ++ joinRegions later tail) := by
  simp [joinRegions]

/-- The copies in front of a region end before it, so a position in it is found there: the text between
two regions keeps the end of the one apart from the beginning of the other. -/
theorem find?_placeRegions {source : Source} {fragments : List Span} {earlier later : List Region} {region : Region}
    {grammar : Span} {offset position : Nat} (found : fragments[region.number]? = some grammar)
    (separated : ∀ other ∈ (earlier ++ region :: later).tail, other.before ≠ [])
    (inside : offset + (joinRegions earlier region.before).length + region.body.length ≤ source.length)
    (after : offset + (joinRegions earlier region.before).length ≤ position)
    (upTo : position ≤ offset + (joinRegions earlier region.before).length + region.body.length) :
    let start := offset + (joinRegions earlier region.before).length
    (placeRegions source fragments offset (earlier ++ region :: later)).find? (fun copy =>
        copy.generated.start ≤ position && position ≤ copy.generated.stop) =
      some ⟨region.number, source.clampedSpan start (start + region.body.length), grammar⟩ := by
  induction earlier generalizing offset with
  | nil =>
    intro start
    have first : (source.clampedSpan start (start + region.body.length)).start = start :=
      source.clampedSpan_start _ (by omega)
    have length : (source.clampedSpan start (start + region.body.length)).length = region.body.length := by
      rw [source.clampedSpan_length (Nat.le_add_right _ _) inside, Nat.add_sub_cancel_left]
    have here : offset + region.before.length = start := by simp [start, joinRegions]
    rw [List.nil_append, placeRegions, here, found]
    apply List.find?_cons_of_pos
    simp only [Span.stop, first, length, Bool.and_eq_true, decide_eq_true_eq]
    exact ⟨after, upTo⟩
  | cons other earlier ih =>
    let stop := offset + other.before.length + other.body.length
    have width : offset + (joinRegions (other :: earlier) region.before).length =
        stop + (joinRegions earlier region.before).length := by
      simp only [stop, joinRegions, List.flatMap_cons, List.length_append]
      omega
    have gap : 0 < (joinRegions earlier region.before).length := by
      have nonempty : region.before ≠ [] := separated region (by simp)
      rw [joinRegions, List.length_append]
      exact Nat.add_pos_right _ (List.length_pos_iff.mpr nonempty)
    have before : (source.clampedSpan (offset + other.before.length) stop).stop ≤ stop :=
      source.clampedSpan_stop_le (Nat.le_add_right _ _)
    rw [width] at inside after upTo ⊢
    have later := @ih stop (fun other member => separated other (List.mem_of_mem_tail member)) inside after upTo
    rw [List.cons_append, placeRegions]
    split
    · exact later
    · have passed : stop < position := Nat.lt_of_lt_of_le (Nat.lt_add_of_pos_right gap) after
      rw [List.find?_cons_of_neg, later]
      simp only [Bool.and_eq_true, decide_eq_true_eq, not_and, Nat.not_le]
      exact fun _ => Nat.lt_of_le_of_lt before passed

theorem FragmentMap.grammarSpan?_copy (name : String) {fragments : List Span} {earlier later : List Region}
    {region : Region} {grammar : Span} {inner : Nat} (tail : List Char)
    (found : fragments[region.number]? = some grammar) (copied : grammar.text.toList = region.body)
    (noReturn : '\r' ∉ region.body) (inside : inner ≤ region.body.length)
    (separated : ∀ other ∈ (earlier ++ region :: later).tail, other.before ≠ []) :
    let source : Source := ⟨name, String.ofList (joinRegions (earlier ++ region :: later) tail)⟩
    grammarSpan? ⟨source, placeRegions source fragments 0 (earlier ++ region :: later)⟩
        ((joinRegions earlier region.before).length + inner) =
      some (grammar.source.clampedSpan (grammar.start + inner) (grammar.start + inner)) := by
  intro source
  let start := (joinRegions earlier region.before).length
  have chars : source.chars = joinRegions earlier region.before ++ (region.body ++ joinRegions later tail) := by
    rw [Source.chars_ofList, joinRegions_append]
  have bounded : start + region.body.length ≤ source.length := by
    rw [Source.length, chars, List.length_append, List.length_append, ← Nat.add_assoc]
    exact Nat.le_add_right _ _
  let copy := source.clampedSpan start (start + region.body.length)
  have first : copy.start = start := source.clampedSpan_start _ (Nat.le_trans (Nat.le_add_right _ _) bounded)
  have length : copy.length = region.body.length := by
    rw [source.clampedSpan_length (Nat.le_add_right _ _) bounded, Nat.add_sub_cancel_left]
  have text : copy.text.toList = region.body := by
    have same : copy.source = source := rfl
    rw [Span.text_chars, first, length, same, chars, List.drop_left, List.take_left]
  have here : fragmentAt? ⟨source, placeRegions source fragments 0 (earlier ++ region :: later)⟩ (start + inner) =
      some ⟨region.number, copy, grammar⟩ := by
    have placed := @find?_placeRegions source fragments earlier later region grammar 0 (start + inner) found
      separated
    simp only [Nat.zero_add] at placed
    exact placed bounded (Nat.le_add_right _ _) (Nat.add_le_add_left inside _)
  have aligned := alignedOffset?_self inside noReturn
  show (fragmentAt? _ (start + inner)).map _ = _
  simp only [here, Option.map_some, first]
  simp only [start, Nat.add_sub_cancel_left, text, copied, aligned]

end GrammarFlow
