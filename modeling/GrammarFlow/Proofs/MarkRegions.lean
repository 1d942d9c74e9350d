import GrammarFlow.Proofs.MarkInsertion
import GrammarFlow.Proofs.MarkReading

/-! A text with marked fragments as its regions and a tail. Cutting at the marks gives the regions back,
and the marks of fragments in order cut a plain source into regions that make it up again. -/

namespace GrammarFlow

def MarkStyle.markRegions (marks : MarkStyle) (regions : List Region) (tail : List Char) : List Char :=
  regions.flatMap (fun region => region.before ++ (marks.openMark region.number).toList ++ region.body ++
    (marks.closeMark region.number).toList) ++ tail

structure Region.Readable (marks : MarkStyle) (region : Region) : Prop where
  small : region.number < numberBound
  before : ¬ marks.openLead <:+: region.before
  body : ¬ marks.closeLead <:+: region.body

theorem splitMarks_of_none {marks : MarkStyle} {known : Nat} {text : List Char}
    (opened : findFirst marks.readOpen text = none) : splitMarks marks known text = .ok ([], text) := by
  rw [splitMarks]
  split
  · rfl
  next found => rw [opened] at found; cases found

theorem splitMarks_of_some {marks : MarkStyle} {known number : Nat} {text before inner body rest : List Char}
    (opened : findFirst marks.readOpen text = some (before, number, inner)) (inside : number < known)
    (closed : findFirst marks.readClose inner = some (body, number, rest)) :
    splitMarks marks known text = (splitMarks marks known rest).map fun (regions, tail) =>
      (⟨before, number, body⟩ :: regions, tail) := by
  rw [splitMarks]
  split
  next found => rw [opened] at found; cases found
  next found =>
    rw [opened] at found
    cases found
    rw [if_neg (Nat.not_le.mpr inside)]
    split
    next none => rw [closed] at none; cases none
    next some =>
      rw [closed] at some
      cases some
      rw [if_neg (fun different => different rfl)]

theorem splitMarks_markRegions {marks : MarkStyle} (noUnderscore : '_' ∉ marks.opening.toList) {known : Nat}
    {regions : List Region} {tail : List Char} (readable : ∀ region ∈ regions, region.Readable marks)
    (inside : ∀ region ∈ regions, region.number < known) (unmarked : ¬ marks.openLead <:+: tail) :
    splitMarks marks known (marks.markRegions regions tail) = .ok (regions, tail) := by
  induction regions with
  | nil => exact splitMarks_of_none (findFirst_none (fun _ _ => marks.openLead_of_readOpen) unmarked)
  | cons region regions ih =>
    have first := readable region (by simp)
    have text : marks.markRegions (region :: regions) tail = region.before ++
        ((marks.openMark region.number).toList ++ (region.body ++
          ((marks.closeMark region.number).toList ++ marks.markRegions regions tail))) := by
      simp [MarkStyle.markRegions]
    have opened := findFirst_append (fun _ _ => marks.openLead_of_readOpen)
      (MarkStyle.selfFree_openLead noUnderscore) first.before (marks.readOpen_openMark first.small
        (region.body ++ ((marks.closeMark region.number).toList ++ marks.markRegions regions tail)))
    have closed := findFirst_append (fun _ _ => marks.closeLead_of_readClose)
      (MarkStyle.selfFree_closeLead noUnderscore) first.body (marks.readClose_closeMark first.small
        (marks.markRegions regions tail))
    rw [text, splitMarks_of_some opened (inside region (by simp)) closed,
      ih (fun other member => readable other (by simp [member])) fun other member => inside other (by simp [member])]
    rfl

theorem FragmentMap.strip_markRegions {marks : MarkStyle} (noUnderscore : '_' ∉ marks.opening.toList)
    (name : String) {fragments : List Span} {regions : List Region} {tail : List Char}
    (readable : ∀ region ∈ regions, region.Readable marks)
    (inside : ∀ region ∈ regions, region.number < fragments.length) (unmarked : ¬ marks.openLead <:+: tail) :
    let source : Source := ⟨name, String.ofList (joinRegions regions tail)⟩
    strip name (String.ofList (marks.markRegions regions tail)) marks fragments =
      .ok ⟨source, placeRegions source fragments 0 regions⟩ := by
  intro source
  rw [strip, String.toList_ofList, splitMarks_markRegions noUnderscore readable inside unmarked]
  rfl

/-- Fragments that can be marked: inside the source, sorted and apart from each other, though they may
touch and be empty, and with numbers that have no more digits than a mark. -/
structure Markable (source : Source) (fragments : List (Nat × Span)) : Prop where
  inside : ∀ fragment ∈ fragments, fragment.2.stop ≤ source.length
  apart : fragments.Pairwise fun a b => a.2.stop ≤ b.2.start
  small : ∀ fragment ∈ fragments, fragment.1 < numberBound

theorem Markable.tail {source : Source} {first : Nat × Span} {fragments : List (Nat × Span)}
    (markable : Markable source (first :: fragments)) : Markable source fragments :=
  ⟨fun fragment member => markable.inside fragment (by simp [member]), (List.pairwise_cons.mp markable.apart).2,
    fun fragment member => markable.small fragment (by simp [member])⟩

def MarkStyle.fragmentMarks (marks : MarkStyle) (fragments : List (Nat × Span)) : Insertions :=
  fragments.flatMap fun (number, fragment) =>
    [(fragment.start, marks.openMark number), (fragment.stop, marks.closeMark number)]

private theorem inOrder_from {source : Source} {fragments : List (Nat × Span)} (marks : MarkStyle)
    (markable : Markable source fragments) {copied : Nat}
    (behind : ∀ fragment ∈ fragments, copied ≤ fragment.2.start) :
    InOrder source.length marks.markLength copied (marks.fragmentMarks fragments) := by
  induction fragments generalizing copied with
  | nil => trivial
  | cons first fragments ih =>
    have inside := markable.inside first (by simp)
    have small := markable.small first (by simp)
    have apart := (List.pairwise_cons.mp markable.apart).1
    have bounded : first.2.start ≤ first.2.stop := Nat.le_add_right _ _
    exact ⟨behind first (by simp), Nat.le_trans bounded inside, marks.length_openMark small,
      bounded, inside, marks.length_closeMark small, ih markable.tail apart⟩

theorem Markable.inOrder {source : Source} {fragments : List (Nat × Span)} (marks : MarkStyle)
    (markable : Markable source fragments) :
    InOrder source.length marks.markLength 0 (marks.fragmentMarks fragments) :=
  inOrder_from marks markable fun _ _ => Nat.zero_le _

theorem foldlM_fragmentMarks (marks : MarkStyle) (fragments : List (Nat × Span)) (marking : Marking) :
    fragments.foldlM (fun (marking : Marking) (number, fragment) => do
        let marking ← marking.insert fragment.start (marks.openMark number)
        marking.insert fragment.stop (marks.closeMark number)) marking =
      marking.insertAll (marks.fragmentMarks fragments) := by
  induction fragments generalizing marking with
  | nil => rfl
  | cons first fragments ih =>
    simp only [List.foldlM_cons, bind_assoc, ih]
    rfl

theorem ofFragments_ok {plain : Source} {fragments : List (Nat × Span)} (marks : MarkStyle)
    (markable : Markable plain fragments) :
    MarkedSource.ofFragments plain marks fragments =
      .ok (.withMarks plain marks.markLength (marks.fragmentMarks fragments) plain.name) := by
  obtain ⟨result, run, finished⟩ := Marking.insertAll_finish (markable.inOrder marks) plain.name
  rw [MarkedSource.ofFragments, foldlM_fragmentMarks, run, ← finished]
  rfl

/-- The regions that fragments in order cut out of a text, from an offset on. -/
def cutRegions (plain : List Char) : Nat → List (Nat × Span) → List Region
  | _, [] => []
  | copied, (number, fragment) :: fragments =>
    ⟨(plain.drop copied).take (fragment.start - copied), number,
      (plain.drop fragment.start).take fragment.length⟩ :: cutRegions plain fragment.stop fragments

def cutTail (plain : List Char) : Nat → List (Nat × Span) → List Char
  | copied, [] => plain.drop copied
  | _, (_, fragment) :: fragments => cutTail plain fragment.stop fragments

theorem markedChars_fragmentMarks (marks : MarkStyle) (plain : List Char) (fragments : List (Nat × Span))
    (copied : Nat) : markedChars plain copied (marks.fragmentMarks fragments) =
      marks.markRegions (cutRegions plain copied fragments) (cutTail plain copied fragments) := by
  induction fragments generalizing copied with
  | nil => rfl
  | cons first fragments ih =>
    have width : first.2.stop - first.2.start = first.2.length := Nat.add_sub_cancel_left _ _
    have later := ih first.2.stop
    simp only [MarkStyle.fragmentMarks] at later
    simp [MarkStyle.fragmentMarks, markedChars, later, cutRegions, cutTail, MarkStyle.markRegions, width]

theorem joinRegions_cutRegions {plain : List Char} {fragments : List (Nat × Span)} {copied : Nat}
    (apart : fragments.Pairwise fun a b => a.2.stop ≤ b.2.start)
    (behind : ∀ fragment ∈ fragments, copied ≤ fragment.2.start) :
    joinRegions (cutRegions plain copied fragments) (cutTail plain copied fragments) = plain.drop copied := by
  induction fragments generalizing copied with
  | nil => rfl
  | cons first fragments ih =>
    have start : copied + (first.2.start - copied) = first.2.start :=
      Nat.add_sub_cancel' (behind first (by simp))
    have front : (plain.drop copied).take (first.2.start - copied) ++ plain.drop first.2.start =
        plain.drop copied := by
      have whole := List.take_append_drop (first.2.start - copied) (plain.drop copied)
      rwa [List.drop_drop, start] at whole
    have body : (plain.drop first.2.start).take first.2.length ++ plain.drop first.2.stop =
        plain.drop first.2.start := by
      rw [Span.stop, ← List.drop_drop, List.take_append_drop]
    have later := ih (List.pairwise_cons.mp apart).2 (List.pairwise_cons.mp apart).1
    rw [joinRegions] at later ⊢
    simp only [cutRegions, cutTail, List.flatMap_cons, List.append_assoc, later, body, front]

end GrammarFlow
