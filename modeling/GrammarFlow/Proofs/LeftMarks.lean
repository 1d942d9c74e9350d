import Mathlib.Data.List.Basic
import GrammarFlow.Proofs.MarkRestoration

/-! Marks that are left when the marks were taken out of a file. A search goes on behind the mark that it has found,
so no open mark stands outside the copies and no close mark inside one. Open marks within a copy and close marks
without an open one stay, and a mark can come about where one was taken out. -/

namespace GrammarFlow

section Search
variable {read : List Char → Option (Nat × List Char)} {text before after : List Char} {number : Nat}

theorem silent_of_findFirst_none (nowhere : findFirst read text = none) (offset : Nat) :
    read (text.drop offset) = none := by
  induction text generalizing offset with
  | nil => simpa [findFirst] using nowhere
  | cons c rest ih =>
    simp only [findFirst] at nowhere
    split at nowhere
    next => cases nowhere
    next here =>
      cases offset with
      | zero => exact here
      | succ offset => exact ih (Option.map_eq_none_iff.mp nowhere) offset

theorem silent_before_findFirst (found : findFirst read text = some (before, number, after)) :
    ∀ offset < before.length, read (text.drop offset) = none := by
  induction text generalizing before with
  | nil =>
    simp only [findFirst, Option.map_eq_some_iff, Prod.exists] at found
    obtain ⟨_, _, -, same⟩ := found
    cases same
    simp
  | cons c rest ih =>
    simp only [findFirst] at found
    split at found
    next => cases found; simp
    next here =>
      simp only [Option.map_eq_some_iff, Prod.exists] at found
      obtain ⟨front, _, _, later, same⟩ := found
      cases same
      intro offset inside
      cases offset with
      | zero => exact here
      | succ offset => exact ih later offset (Nat.lt_of_succ_lt_succ inside)

/-- A word that would be read does not stand in a text in which nothing is read. -/
theorem not_infix_of_silent {word front rest : List Char} (reads : ∀ rest, (read (word ++ rest)).isSome = true)
    (nonempty : word ≠ []) (silent : ∀ offset < front.length, read ((front ++ rest).drop offset) = none) :
    ¬ word <:+: front := by
  rintro ⟨lead, trail, rfl⟩
  have inside : lead.length < (lead ++ word ++ trail).length := by
    have := List.length_pos_iff.mpr nonempty
    simp only [List.length_append]
    omega
  have here := silent lead.length inside
  rw [List.append_assoc, List.append_assoc, List.drop_left] at here
  simpa [here] using reads (trail ++ rest)

end Search

section Standing

def StandsAt (mark : Nat → String) (text : List Char) (offset : Nat) : Prop :=
  ∃ number < numberBound, (mark number).toList <+: text.drop offset

def FreeOf (mark : Nat → String) (text : List Char) : Prop := ∀ number < numberBound, ¬ (mark number).toList <:+: text

theorem StandsAt.not_infix {mark : Nat → String} {text part : List Char} {offset length : Nat}
    (stands : StandsAt mark text offset) (long : ∀ number < numberBound, (mark number).length = length)
    (free : FreeOf mark part) : ¬ (text.drop offset).take length <:+: part := by
  obtain ⟨number, small, here⟩ := stands
  have read := List.prefix_iff_eq_take.mp here
  rw [String.length_toList, long number small] at read
  rw [← read]
  exact free number small

variable {marks : MarkStyle} {front rest : List Char}

theorem freeOf_openMark (silent : ∀ offset < front.length, marks.readOpen ((front ++ rest).drop offset) = none) :
    FreeOf marks.openMark front := by
  intro number small
  refine not_infix_of_silent (fun rest => ?_) ?_ silent
  · rw [marks.readOpen_openMark small]
    rfl
  · simp [MarkStyle.openMark_chars, MarkStyle.openLead]

theorem freeOf_closeMark (silent : ∀ offset < front.length, marks.readClose ((front ++ rest).drop offset) = none) :
    FreeOf marks.closeMark front := by
  intro number small
  refine not_infix_of_silent (fun rest => ?_) ?_ silent
  · rw [marks.readClose_closeMark small]
    rfl
  · simp [MarkStyle.closeMark_chars, MarkStyle.closeLead]

end Standing

/-- The parts that a file is cut into: no open mark stands outside the regions, and no close mark in one. -/
theorem markFree_of_splitMarks {marks : MarkStyle} {known : Nat} {text tail : List Char} {regions : List Region}
    (split : splitMarks marks known text = .ok (regions, tail)) :
    (∀ region ∈ regions, FreeOf marks.openMark region.before ∧ FreeOf marks.closeMark region.body) ∧
      FreeOf marks.openMark tail := by
  fun_induction splitMarks marks known text generalizing regions tail with
  | case1 text nowhere =>
    cases split
    have silent (offset : Nat) (_ : offset < text.length) : marks.readOpen ((text ++ []).drop offset) = none := by
      rw [List.append_nil]
      exact silent_of_findFirst_none nowhere offset
    exact ⟨by simp, freeOf_openMark silent⟩
  | case2 => cases split
  | case3 => cases split
  | case4 => cases split
  | case5 text before number inner opened inside body closing rest closed same ih =>
    cases remaining : splitMarks marks known rest with
    | error => rw [remaining] at split; cases split
    | ok found =>
      obtain ⟨others, last⟩ := found
      rw [remaining] at split
      cases split
      obtain ⟨parts, tailFree⟩ := ih remaining
      obtain ⟨fromOpen, rfl, -⟩ := eq_of_findFirst opened
      obtain ⟨fromClose, rfl, -⟩ := eq_of_findFirst closed
      have first := freeOf_openMark (silent_before_findFirst opened)
      have content := freeOf_closeMark (silent_before_findFirst closed)
      exact ⟨List.forall_mem_cons.mpr ⟨⟨first, content⟩, parts⟩, tailFree⟩

section Ranges

theorem take_drop_infix {α : Type} (items : List α) {start length inner count : Nat} (after : start ≤ inner)
    (within : inner + count ≤ start + length) : (items.drop inner).take count <:+: (items.drop start).take length := by
  have split : inner = start + (inner - start) := by omega
  have same : (((items.drop start).take length).drop (inner - start)).take count = (items.drop inner).take count := by
    rw [List.drop_take, List.drop_drop, ← split, List.take_take, Nat.min_eq_left (by omega)]
  rw [← same]
  exact (List.take_prefix _ _).isInfix.trans (List.drop_suffix _ _).isInfix

namespace Span

def Holds (span : Span) (offset length : Nat) : Prop := span.start ≤ offset ∧ offset + length ≤ span.stop

def Misses (span : Span) (offset length : Nat) : Prop := offset + length ≤ span.start ∨ span.stop ≤ offset

def Cuts (span : Span) (offset length : Nat) : Prop :=
  (offset < span.start ∧ span.start < offset + length) ∨ (offset < span.stop ∧ span.stop < offset + length)

instance (span : Span) (offset length : Nat) : Decidable (span.Holds offset length) :=
  inferInstanceAs (Decidable (_ ∧ _))

instance (span : Span) (offset length : Nat) : Decidable (span.Misses offset length) :=
  inferInstanceAs (Decidable (_ ∨ _))

instance (span : Span) (offset length : Nat) : Decidable (span.Cuts offset length) :=
  inferInstanceAs (Decidable (_ ∨ _))

theorem holds_or_cuts {span : Span} {offset length : Nat} (met : ¬ span.Misses offset length) :
    span.Holds offset length ∨ span.Cuts offset length := by
  simp only [Misses, Holds, Cuts] at met ⊢
  omega

theorem misses_or_cuts {span : Span} {offset length : Nat} (out : ¬ span.Holds offset length) :
    span.Misses offset length ∨ span.Cuts offset length := by
  simp only [Misses, Holds, Cuts] at out ⊢
  omega

end Span

variable {plain : List Char} {fragments : List (Nat × Span)} {copied offset length : Nat}

/-- What lies outside all fragments is in the tail, or in front of a region. -/
theorem take_drop_outside (behind : copied ≤ offset)
    (missed : ∀ fragment ∈ fragments, fragment.2.Misses offset length) :
    (plain.drop offset).take length <:+: cutTail plain copied fragments ∨
      ∃ region ∈ cutRegions plain copied fragments, (plain.drop offset).take length <:+: region.before := by
  induction fragments generalizing copied with
  | nil =>
    have suffix := List.drop_suffix (offset - copied) (plain.drop copied)
    rw [List.drop_drop, Nat.add_sub_cancel' behind] at suffix
    exact .inl ((List.take_prefix _ _).isInfix.trans suffix.isInfix)
  | cons first fragments ih =>
    obtain ⟨here, missed⟩ := List.forall_mem_cons.mp missed
    rcases here with before | after
    · exact .inr ⟨_, List.mem_cons_self, take_drop_infix plain behind (by omega)⟩
    · rcases ih after missed with inTail | ⟨region, member, inRegion⟩
      · exact .inl inTail
      · exact .inr ⟨region, List.mem_cons_of_mem _ member, inRegion⟩

theorem take_drop_inside {fragment : Nat × Span} (member : fragment ∈ fragments)
    (held : fragment.2.Holds offset length) :
    ∃ region ∈ cutRegions plain copied fragments, (plain.drop offset).take length <:+: region.body := by
  induction fragments generalizing copied with
  | nil => cases member
  | cons first fragments ih =>
    rcases List.mem_cons.mp member with rfl | member
    · exact ⟨_, List.mem_cons_self, take_drop_infix plain held.1 held.2⟩
    · obtain ⟨region, member, inRegion⟩ := ih member
      exact ⟨region, List.mem_cons_of_mem _ member, inRegion⟩

end Ranges

namespace FragmentMap
variable {name text : String} {marks : MarkStyle} {grammar : List Span} {file : FragmentMap}

/-- The text between the copies has no open mark, and no copy has a close mark. -/
theorem markFree_of_strip (stripped : strip name text marks grammar = .ok file) :
    let places := file.fragments.map fun copy => (copy.number, copy.generated)
    (∀ region ∈ cutRegions file.source.chars 0 places,
        FreeOf marks.openMark region.before ∧ FreeOf marks.closeMark region.body) ∧
      FreeOf marks.openMark (cutTail file.source.chars 0 places) := by
  intro places
  obtain ⟨regions, tail, split, source, fragments⟩ := split_of_strip stripped
  have chars : file.source.chars.drop 0 = joinRegions regions tail := by
    rw [List.drop_zero, source, Source.chars_ofList]
  have known := fun region member => ((eq_markRegions_of_splitMarks split).2 region member).1
  obtain ⟨regionsCut, tailCut⟩ := cutRegions_placeRegions known chars (Nat.zero_le _)
  have free := markFree_of_splitMarks split
  rw [← regionsCut, ← tailCut, ← fragments] at free
  exact free

/-- An open mark that is left stands in a copy or across an end of one. A close mark that is left stands apart from
all copies or across an end of one. -/
theorem marks_left (stripped : strip name text marks grammar = .ok file) (offset : Nat) :
    (StandsAt marks.openMark file.source.chars offset → ∃ copy ∈ file.fragments,
      copy.generated.Holds offset marks.markLength ∨ copy.generated.Cuts offset marks.markLength) ∧
    (StandsAt marks.closeMark file.source.chars offset →
      (∀ copy ∈ file.fragments, copy.generated.Misses offset marks.markLength) ∨
        ∃ copy ∈ file.fragments, copy.generated.Cuts offset marks.markLength) := by
  obtain ⟨regionsFree, tailFree⟩ := markFree_of_strip stripped
  have openLong (number : Nat) (small : number < numberBound) := marks.length_openMark small
  have closeLong (number : Nat) (small : number < numberBound) := marks.length_closeMark small
  constructor
  · intro opens
    by_contra apart
    have missed : ∀ place ∈ file.fragments.map fun copy => (copy.number, copy.generated),
        place.2.Misses offset marks.markLength := by
      refine List.forall_mem_map.mpr fun copy member => ?_
      by_contra met
      exact apart ⟨copy, member, Span.holds_or_cuts met⟩
    rcases take_drop_outside (Nat.zero_le offset) missed with inTail | ⟨region, member, inRegion⟩
    · exact opens.not_infix openLong tailFree inTail
    · exact opens.not_infix openLong (regionsFree region member).1 inRegion
  · intro closes
    by_cases cut : ∃ copy ∈ file.fragments, copy.generated.Cuts offset marks.markLength
    · exact .inr cut
    · refine .inl fun copy member => ?_
      have out : ¬ copy.generated.Holds offset marks.markLength := by
        intro held
        have place := List.mem_map_of_mem (f := fun copy : FragmentCopy => (copy.number, copy.generated)) member
        obtain ⟨region, inside, inRegion⟩ := take_drop_inside place held
        exact closes.not_infix closeLong (regionsFree region inside).2 inRegion
      exact (Span.misses_or_cuts out).resolve_right fun across => cut ⟨copy, member, across⟩

/-- An open mark that is left in a copy, between two other actions. -/
theorem marks_left_in_copy :
    let text := "/*#fragment_000*/a/*fragment_000#*/ /*#fragment_001*/b/*#fragment_000*//*fragment_001#*/"
    let grammar : List Span := [default, default]
    ∃ file, strip "P.java" text default grammar = .ok file ∧ StandsAt (MarkStyle.openMark default) file.source.chars 3 ∧
      ∃ copy ∈ file.fragments, copy.generated.Holds 3 17 ∨ copy.generated.Cuts 3 17 := by
  intro text grammar
  let source : Source := ⟨"P.java", "a b/*#fragment_000*/"⟩
  let file : FragmentMap := ⟨source,
    [⟨0, ⟨source, 0, 1, by decide⟩, default⟩, ⟨1, ⟨source, 2, 18, by decide⟩, default⟩]⟩
  have stripped : strip "P.java" text default grammar = .ok file := by decide +kernel
  have opens : StandsAt (MarkStyle.openMark default) file.source.chars 3 := ⟨0, by decide, by decide +kernel⟩
  exact ⟨file, stripped, opens, (marks_left stripped 3).1 opens⟩

/-- A close mark without an open one stays, as does an open mark in a copy, and taking out the marks of an empty
copy can make a mark of the text around it. -/
theorem marks_stay :
    let grammar : List Span := [default, default]
    let marks : MarkStyle := default
    (∃ file, strip "P.java" " /*fragment_001#*/" marks grammar = .ok file ∧
        StandsAt marks.closeMark file.source.chars 1) ∧
      (∃ file, strip "P.java" "/*#fragment_000*//*#fragment_001*//*fragment_000#*/" marks grammar = .ok file ∧
        StandsAt marks.openMark file.source.chars 0) ∧
      ∃ file, strip "P.java" "/*/*#fragment_000*//*fragment_000#*/#fragment_001*/" marks grammar = .ok file ∧
        StandsAt marks.openMark file.source.chars 0 := by
  intro grammar marks
  let stray : Source := ⟨"P.java", " /*fragment_001#*/"⟩
  let nested : Source := ⟨"P.java", "/*#fragment_001*/"⟩
  have left : StandsAt marks.openMark nested.chars 0 := ⟨1, by decide, by decide +kernel⟩
  refine ⟨⟨⟨stray, []⟩, by decide +kernel, 1, by decide, by decide +kernel⟩,
    ⟨⟨nested, [⟨0, ⟨nested, 0, 17, by decide⟩, default⟩]⟩, by decide +kernel, left⟩,
    ⟨⟨nested, [⟨0, ⟨nested, 2, 0, by decide⟩, default⟩]⟩, by decide +kernel, left⟩⟩

end FragmentMap

end GrammarFlow
