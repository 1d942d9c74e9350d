import GrammarFlow.Proofs.MarkRecognition
import GrammarFlow.Proofs.MarkRegions
import GrammarFlow.Proofs.SourceSpans

/-! Marking undoes stripping. Whatever a file looks like that can be cut at its marks, putting marks around
the copies that were found gives the file again: nothing but marks was taken out, and the copies lie
where the marks stood. -/

namespace GrammarFlow

theorem eq_markRegions_of_splitMarks {marks : MarkStyle} {known : Nat} {text tail : List Char} {regions : List Region}
    (split : splitMarks marks known text = .ok (regions, tail)) :
    text = marks.markRegions regions tail ∧
      ∀ region ∈ regions, region.number < known ∧ region.number < numberBound := by
  fun_induction splitMarks marks known text generalizing regions tail with
  | case1 => cases split; simp [MarkStyle.markRegions]
  | case2 => cases split
  | case3 => cases split
  | case4 => cases split
  | case5 text before number inner opened inside body closing rest closed same ih =>
    obtain rfl := Decidable.not_not.mp same
    cases remaining : splitMarks marks known rest with
    | error => rw [remaining] at split; cases split
    | ok found =>
      obtain ⟨others, last⟩ := found
      rw [remaining] at split
      cases split
      obtain ⟨restText, restNumbers⟩ := ih remaining
      obtain ⟨fromOpen, rfl, openRead⟩ := eq_of_findFirst opened
      obtain ⟨fromClose, rfl, closeRead⟩ := eq_of_findFirst closed
      obtain ⟨small, rfl⟩ := MarkStyle.eq_of_readOpen openRead
      obtain ⟨-, rfl⟩ := MarkStyle.eq_of_readClose closeRead
      subst restText
      refine ⟨by simp [MarkStyle.markRegions], ?_⟩
      intro region member
      rcases List.mem_cons.mp member with rfl | member
      · exact ⟨Nat.lt_of_not_le inside, small⟩
      · exact restNumbers region member

theorem FragmentMap.split_of_strip {name text : String} {marks : MarkStyle} {grammar : List Span} {file : FragmentMap}
    (stripped : strip name text marks grammar = .ok file) :
    ∃ regions tail, splitMarks marks grammar.length text.toList = .ok (regions, tail) ∧
      file.source = ⟨name, String.ofList (joinRegions regions tail)⟩ ∧
      file.fragments = placeRegions file.source grammar 0 regions := by
  cases split : splitMarks marks grammar.length text.toList with
  | error => rw [strip, split] at stripped; cases stripped
  | ok cut =>
    obtain ⟨regions, tail⟩ := cut
    rw [strip, split] at stripped
    cases stripped
    exact ⟨regions, tail, rfl, rfl, rfl⟩

theorem FragmentMap.regions_of_strip {name text : String} {marks : MarkStyle} {grammar : List Span} {file : FragmentMap}
    (stripped : strip name text marks grammar = .ok file) :
    ∃ regions tail, text.toList = marks.markRegions regions tail ∧
      (∀ region ∈ regions, region.number < grammar.length ∧ region.number < numberBound) ∧
      file.source = ⟨name, String.ofList (joinRegions regions tail)⟩ ∧
      file.fragments = placeRegions file.source grammar 0 regions := by
  obtain ⟨regions, tail, split, source, fragments⟩ := split_of_strip stripped
  obtain ⟨written, numbers⟩ := eq_markRegions_of_splitMarks split
  exact ⟨regions, tail, written, numbers, source, fragments⟩

section Places
variable {source : Source} {grammar : List Span}

theorem mem_placeRegions_cons {region : Region} {regions : List Region} {offset : Nat} {copy : FragmentCopy}
    (member : copy ∈ placeRegions source grammar offset (region :: regions)) :
    let start := offset + region.before.length
    let stop := start + region.body.length
    (copy.generated = source.clampedSpan start stop ∧ copy.number = region.number ∧
        grammar[copy.number]? = some copy.grammar) ∨
      copy ∈ placeRegions source grammar stop regions := by
  rw [placeRegions] at member
  split at member
  next => exact .inr member
  next found =>
    rcases List.mem_cons.mp member with rfl | member
    · exact .inl ⟨rfl, rfl, found⟩
    · exact .inr member

theorem placeRegions_known {regions : List Region} {offset : Nat} :
    ∀ copy ∈ placeRegions source grammar offset regions, copy.generated.source = source ∧
      grammar[copy.number]? = some copy.grammar ∧ ∃ region ∈ regions, copy.number = region.number := by
  induction regions generalizing offset with
  | nil => simp [placeRegions]
  | cons region regions ih =>
    intro copy member
    rcases mem_placeRegions_cons member with ⟨place, same, found⟩ | later
    · exact ⟨place ▸ rfl, found, region, List.mem_cons_self, same⟩
    · obtain ⟨place, found, other, inside, same⟩ := ih copy later
      exact ⟨place, found, other, List.mem_cons_of_mem _ inside, same⟩

theorem placeRegions_behind {regions : List Region} {offset : Nat} :
    ∀ copy ∈ placeRegions source grammar offset regions, min offset source.length ≤ copy.generated.start := by
  induction regions generalizing offset with
  | nil => simp [placeRegions]
  | cons region regions ih =>
    intro copy member
    rcases mem_placeRegions_cons member with ⟨place, -, -⟩ | later
    · simp only [place, Source.clampedSpan]
      omega
    · have := ih copy later
      omega

theorem placeRegions_apart {regions : List Region} {offset : Nat} :
    (placeRegions source grammar offset regions).Pairwise fun a b => a.generated.stop ≤ b.generated.start := by
  induction regions generalizing offset with
  | nil => simp [placeRegions]
  | cons region regions ih =>
    rw [placeRegions]
    split
    next => exact ih
    next =>
      refine List.pairwise_cons.mpr ⟨fun copy member => ?_, ih⟩
      have behind := placeRegions_behind copy member
      simp only [Source.clampedSpan, Span.stop]
      omega

/-- The places of the copies cut the file into the regions again. -/
theorem cutRegions_placeRegions {regions : List Region} {tail : List Char} {offset : Nat}
    (known : ∀ region ∈ regions, region.number < grammar.length)
    (rest : source.chars.drop offset = joinRegions regions tail) (inside : offset ≤ source.length) :
    let places := (placeRegions source grammar offset regions).map fun copy => (copy.number, copy.generated)
    cutRegions source.chars offset places = regions ∧ cutTail source.chars offset places = tail := by
  induction regions generalizing offset with
  | nil => exact ⟨rfl, by simpa [joinRegions, placeRegions, cutTail] using rest⟩
  | cons region regions ih =>
    obtain ⟨numbered, known⟩ := List.forall_mem_cons.mp known
    have found : grammar[region.number]? = some grammar[region.number] := List.getElem?_eq_getElem numbered
    let start := offset + region.before.length
    let stop := start + region.body.length
    have text : source.chars.drop offset = region.before ++ (region.body ++ joinRegions regions tail) := by
      rw [rest]; simp [joinRegions]
    have fromStart : source.chars.drop start = region.body ++ joinRegions regions tail := by
      rw [← List.drop_drop, text, List.drop_left]
    have fromStop : source.chars.drop stop = joinRegions regions tail := by
      rw [← List.drop_drop, fromStart, List.drop_left]
    have bounded : stop ≤ source.length := by
      have total := congrArg List.length text
      have length : source.length = source.chars.length := rfl
      simp only [List.length_drop, List.length_append] at total
      omega
    have forward : start ≤ stop := Nat.le_add_right _ _
    have first := source.clampedSpan_start stop (Nat.le_trans forward bounded)
    have length : (source.clampedSpan start stop).length = region.body.length := by
      rw [source.clampedSpan_length forward bounded, Nat.add_sub_cancel_left]
    have last : (source.clampedSpan start stop).stop = stop := by rw [Span.stop, first, length]
    have before : (source.chars.drop offset).take (start - offset) = region.before := by
      rw [text, Nat.add_sub_cancel_left, List.take_left]
    have body : (source.chars.drop start).take region.body.length = region.body := by rw [fromStart, List.take_left]
    obtain ⟨regionsCut, tailCut⟩ := ih known fromStop bounded
    have placed : placeRegions source grammar offset (region :: regions) =
        ⟨region.number, source.clampedSpan start stop, grammar[region.number]⟩ ::
          placeRegions source grammar stop regions := by
      rw [placeRegions, found]
    simp only [placed, List.map_cons, cutRegions, cutTail, first, length, last, before, body, regionsCut, tailCut,
      and_self]

end Places

/-- The copies of a file lie in it in order and apart, each belongs to a fragment of the grammar, and
marks around them give the file with its marks back. -/
theorem ofFragments_strip {name text : String} {marks : MarkStyle} {grammar : List Span} {file : FragmentMap}
    (stripped : FragmentMap.strip name text marks grammar = .ok file) :
    (∀ copy ∈ file.fragments, copy.generated.source = file.source ∧ copy.generated.stop ≤ file.source.length) ∧
      file.fragments.Pairwise (fun a b => a.generated.stop ≤ b.generated.start) ∧
      (∀ copy ∈ file.fragments, grammar[copy.number]? = some copy.grammar) ∧
      ∃ marked, MarkedSource.ofFragments file.source marks
          (file.fragments.map fun copy => (copy.number, copy.generated)) = .ok marked ∧
        marked.source = ⟨name, text⟩ := by
  obtain ⟨regions, tail, written, numbers, source, fragments⟩ := FragmentMap.regions_of_strip stripped
  have chars : file.source.chars.drop 0 = joinRegions regions tail := by
    rw [List.drop_zero, source, Source.chars_ofList]
  obtain ⟨regionsCut, tailCut⟩ := cutRegions_placeRegions (fun region member => (numbers region member).1) chars
    (Nat.zero_le _)
  have places : ∀ copy ∈ file.fragments, copy.generated.source = file.source ∧
      copy.generated.stop ≤ file.source.length := by
    intro copy member
    have same := (placeRegions_known copy (fragments ▸ member)).1
    exact ⟨same, same ▸ copy.generated.inside⟩
  have apart : file.fragments.Pairwise fun a b => a.generated.stop ≤ b.generated.start := by
    rw [fragments]
    exact placeRegions_apart
  have markable : Markable file.source (file.fragments.map fun copy => (copy.number, copy.generated)) := by
    refine ⟨?_, List.pairwise_map.mpr apart, ?_⟩
    · simpa using fun copy member => (places copy member).2
    · intro fragment member
      obtain ⟨copy, placed, rfl⟩ := List.mem_map.mp member
      obtain ⟨-, -, region, inside, same⟩ := placeRegions_known copy (fragments ▸ placed)
      exact same.symm ▸ (numbers region inside).2
  refine ⟨places, apart, fun copy member => (placeRegions_known copy (fragments ▸ member)).2.1, _,
    ofFragments_ok marks markable, ?_⟩
  rw [MarkedSource.withMarks, markedChars_fragmentMarks, fragments, regionsCut, tailCut, ← written,
    String.ofList_toList, source]

/-- An open mark in the middle of a fragment and a mark with too few digits are text of the file. -/
theorem ofFragments_strip_stray :
    let text := "é/*#fragment_001*/x/*#fragment_000*//*fragment_001#*//*#fragment_0*/"
    let grammar : List Span := [default, default]
    let marks : MarkStyle := default
    ∃ file, FragmentMap.strip "G.java" text marks grammar = .ok file ∧
      file.source.text = "éx/*#fragment_000*//*#fragment_0*/" ∧
      ∃ marked, MarkedSource.ofFragments file.source marks
          (file.fragments.map fun copy => (copy.number, copy.generated)) = .ok marked ∧
        marked.source = ⟨"G.java", text⟩ := by
  intro text grammar marks
  let region : Region := ⟨['é'], 1, "x/*#fragment_000*/".toList⟩
  let tail := "/*#fragment_0*/".toList
  let source : Source := ⟨"G.java", String.ofList (joinRegions [region] tail)⟩
  have opened : findFirst marks.readOpen text.toList =
      some (region.before, 1, "x/*#fragment_000*//*fragment_001#*//*#fragment_0*/".toList) := by decide +kernel
  have closed : findFirst marks.readClose "x/*#fragment_000*//*fragment_001#*//*#fragment_0*/".toList =
      some (region.body, 1, tail) := by decide +kernel
  have last : findFirst marks.readOpen tail = none := by decide +kernel
  have stripped : FragmentMap.strip "G.java" text marks grammar =
      .ok ⟨source, placeRegions source grammar 0 [region]⟩ := by
    rw [FragmentMap.strip, splitMarks_of_some opened (by decide) closed, splitMarks_of_none last]
    rfl
  exact ⟨_, stripped, by decide, (ofFragments_strip stripped).2.2.2⟩

end GrammarFlow
