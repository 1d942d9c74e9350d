import GrammarFlow.Proofs.MarkRegions
import GrammarFlow.Proofs.SourceSpans

/-! Taking the marks out of a marked source gives the plain text and the fragments that were marked. The
text of the source must not look like a mark, and no comment of the language may begin with an
underscore; fragments may touch, be empty, and come in any number. -/

namespace GrammarFlow

theorem cutRegions_infix {plain : List Char} {copied : Nat} {fragments : List (Nat × Span)} :
    ∀ region ∈ cutRegions plain copied fragments, region.before <:+: plain ∧ region.body <:+: plain := by
  have inside (start length : Nat) : (plain.drop start).take length <:+: plain :=
    (List.take_prefix _ _).isInfix.trans (List.drop_suffix _ _).isInfix
  induction fragments generalizing copied with
  | nil => simp [cutRegions]
  | cons first fragments ih =>
    intro region member
    rcases List.mem_cons.mp member with rfl | member
    · exact ⟨inside _ _, inside _ _⟩
    · exact ih region member

theorem cutTail_infix {plain : List Char} {copied : Nat} {fragments : List (Nat × Span)} :
    cutTail plain copied fragments <:+: plain := by
  induction fragments generalizing copied with
  | nil => exact (List.drop_suffix _ _).isInfix
  | cons first fragments ih => exact ih

theorem cutRegions_number {plain : List Char} {copied : Nat} {fragments : List (Nat × Span)} :
    ∀ region ∈ cutRegions plain copied fragments, ∃ fragment ∈ fragments, fragment.1 = region.number := by
  induction fragments generalizing copied with
  | nil => simp [cutRegions]
  | cons first fragments ih =>
    intro region member
    rcases List.mem_cons.mp member with rfl | member
    · exact ⟨first, by simp, rfl⟩
    · obtain ⟨fragment, inside, same⟩ := ih region member
      exact ⟨fragment, by simp [inside], same⟩

theorem placeRegions_cutRegions {source : Source} {grammar : List Span} {fragments : List (Nat × Span)}
    {copied : Nat} (markable : Markable source fragments)
    (known : ∀ fragment ∈ fragments, fragment.1 < grammar.length)
    (behind : ∀ fragment ∈ fragments, copied ≤ fragment.2.start) :
    (placeRegions source grammar copied (cutRegions source.chars copied fragments)).map (fun copy =>
        (copy.number, copy.generated.source, copy.generated.start, copy.generated.length, some copy.grammar)) =
      fragments.map fun (number, fragment) =>
        (number, source, fragment.start, fragment.length, grammar[number]?) := by
  induction fragments generalizing copied with
  | nil => rfl
  | cons first fragments ih =>
    obtain ⟨number, fragment⟩ := first
    have inside : fragment.stop ≤ source.length := markable.inside _ List.mem_cons_self
    have forward : fragment.start ≤ fragment.stop := Nat.le_add_right _ _
    have after : copied ≤ fragment.start := behind _ List.mem_cons_self
    have number_lt : number < grammar.length := known _ List.mem_cons_self
    have found : grammar[number]? = some grammar[number] := List.getElem?_eq_getElem number_lt
    have before : copied + ((source.chars.drop copied).take (fragment.start - copied)).length = fragment.start := by
      rw [List.length_take, List.length_drop, ← Source.length]
      omega
    have body : ((source.chars.drop fragment.start).take fragment.length).length = fragment.length := by
      rw [List.length_take, List.length_drop, ← Source.length]
      simp only [Span.stop] at inside
      omega
    have start := source.clampedSpan_start fragment.stop (Nat.le_trans forward inside)
    have length := source.clampedSpan_length forward inside
    have stop : fragment.start + fragment.length = fragment.stop := rfl
    have width : fragment.stop - fragment.start = fragment.length := Nat.add_sub_cancel_left _ _
    have later := @ih fragment.stop markable.tail
      (fun other member => known other (List.mem_cons_of_mem _ member)) (List.pairwise_cons.mp markable.apart).1
    simp only [cutRegions, placeRegions, before, body, found, List.map_cons, stop, later, start, length, width]
    rfl

/-- The copies that are found are the fragments that were marked, in order. -/
theorem strip_ofFragments {plain : Source} {marks : MarkStyle} {fragments : List (Nat × Span)}
    {grammar : List Span} (name : String) (noUnderscore : '_' ∉ marks.opening.toList)
    (noOpen : ¬ marks.openLead <:+: plain.chars) (noClose : ¬ marks.closeLead <:+: plain.chars)
    (markable : Markable plain fragments) (known : ∀ fragment ∈ fragments, fragment.1 < grammar.length) :
    ∃ marked file, MarkedSource.ofFragments plain marks fragments = .ok marked ∧
      FragmentMap.strip name marked.source.text marks grammar = .ok file ∧
      file.source = ⟨name, plain.text⟩ ∧
      file.fragments.map (fun copy => (copy.number, copy.generated.source, copy.generated.start,
          copy.generated.length, some copy.grammar)) =
        fragments.map fun (number, fragment) =>
          (number, file.source, fragment.start, fragment.length, grammar[number]?) := by
  let regions := cutRegions plain.chars 0 fragments
  let tail := cutTail plain.chars 0 fragments
  have readable : ∀ region ∈ regions, region.Readable marks := by
    intro region member
    obtain ⟨before, body⟩ := cutRegions_infix region member
    obtain ⟨fragment, inside, same⟩ := cutRegions_number region member
    exact ⟨same ▸ markable.small fragment inside, fun early => noOpen (early.trans before),
      fun early => noClose (early.trans body)⟩
  have inside : ∀ region ∈ regions, region.number < grammar.length := by
    intro region member
    obtain ⟨fragment, inside, same⟩ := cutRegions_number region member
    exact same ▸ known fragment inside
  have joined : joinRegions regions tail = plain.chars :=
    joinRegions_cutRegions markable.apart fun _ _ => Nat.zero_le _
  have text : String.ofList (joinRegions regions tail) = plain.text := by
    rw [joined, Source.chars, String.ofList_toList]
  have unmarked : ¬ marks.openLead <:+: tail := fun early => noOpen (early.trans cutTail_infix)
  have stripped := FragmentMap.strip_markRegions noUnderscore name readable inside unmarked
  have markable' : Markable ⟨name, plain.text⟩ fragments := ⟨markable.inside, markable.apart, markable.small⟩
  refine ⟨_, ⟨⟨name, plain.text⟩, placeRegions ⟨name, plain.text⟩ grammar 0 regions⟩,
    ofFragments_ok marks markable, ?_, rfl, ?_⟩
  · rw [MarkedSource.withMarks, markedChars_fragmentMarks, stripped, text]
  · exact placeRegions_cutRegions markable' known fun _ _ => Nat.zero_le _

/-- Three fragments that touch, the second of them empty, behind a character that is not ASCII. -/
theorem strip_ofFragments_touching :
    let plain : Source := ⟨"G.g4", "é(a)()b"⟩
    let fragments : List (Nat × Span) :=
      [(2, ⟨plain, 1, 3, by decide⟩), (0, ⟨plain, 4, 0, by decide⟩), (1, ⟨plain, 4, 2, by decide⟩)]
    let grammar : List Span := fragments.map Prod.snd
    let marks : MarkStyle := default
    Markable plain fragments ∧ (∀ fragment ∈ fragments, fragment.1 < grammar.length) ∧
      ∃ marked file, MarkedSource.ofFragments plain marks fragments = .ok marked ∧
        FragmentMap.strip "G.java" marked.source.text marks grammar = .ok file ∧
        file.source = ⟨"G.java", plain.text⟩ ∧
        file.fragments.map (fun copy => (copy.number, copy.generated.source, copy.generated.start,
            copy.generated.length, some copy.grammar)) =
          fragments.map fun (number, fragment) =>
            (number, file.source, fragment.start, fragment.length, grammar[number]?) := by
  intro plain fragments grammar marks
  have markable : Markable plain fragments := ⟨by decide, by decide, by decide⟩
  have known : ∀ fragment ∈ fragments, fragment.1 < grammar.length := by simp [fragments, grammar]
  have noOpen : ¬ marks.openLead <:+: plain.chars := by decide +kernel
  have noClose : ¬ marks.closeLead <:+: plain.chars := by decide +kernel
  exact ⟨markable, known, strip_ofFragments "G.java" (by decide) noOpen noClose markable known⟩

end GrammarFlow
