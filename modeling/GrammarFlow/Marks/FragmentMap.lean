import GrammarFlow.Marks.Mark
import GrammarFlow.Text.Span

/-!
A generator copies the fragments of a grammar into the files it writes, marks and all. A fragment
map is such a file with the marks taken out, together with where each fragment lies in it and
where the fragment comes from, so that a place inside a copied fragment can be shown in the
grammar.
-/

namespace GrammarFlow

/-- The leftmost place at which `read` succeeds: the text before it, what was read there, and the
text after it. -/
def findFirst (read : List Char → Option (Nat × List Char)) :
    List Char → Option (List Char × Nat × List Char)
  | [] => (read []).map fun (number, after) => ([], number, after)
  | c :: rest =>
    match read (c :: rest) with
    | some (number, after) => some ([], number, after)
    | none => (findFirst read rest).map fun (before, number, after) => (c :: before, number, after)

theorem length_readNumber {text rest : List Char} {number : Nat}
    (read : readNumber text = some (number, rest)) : rest.length ≤ text.length := by
  simp only [readNumber] at read
  split at read
  · obtain ⟨-, rfl⟩ := Prod.mk.inj (Option.some.inj read); simp
  · cases read

theorem MarkStyle.length_readOpen {marks : MarkStyle} {text rest : List Char} {number : Nat}
    (read : marks.readOpen text = some (number, rest)) : rest.length < text.length := by
  simp only [readOpen, Option.bind_eq_bind, Option.bind_eq_some_iff, Prod.exists] at read
  obtain ⟨first, lead, second, third, digits, fourth, trail, done⟩ := read
  cases done
  rw [dropLead_eq_some] at lead trail
  have := length_readNumber digits
  subst lead trail
  simp at this ⊢; omega

theorem MarkStyle.length_readClose {marks : MarkStyle} {text rest : List Char} {number : Nat}
    (read : marks.readClose text = some (number, rest)) : rest.length < text.length := by
  simp only [readClose, Option.bind_eq_bind, Option.bind_eq_some_iff, Prod.exists] at read
  obtain ⟨first, lead, second, third, digits, fourth, trail, done⟩ := read
  cases done
  rw [dropLead_eq_some] at lead trail
  have := length_readNumber digits
  subst lead trail
  simp at this ⊢; omega

theorem length_findFirst {read : List Char → Option (Nat × List Char)}
    (shorter : ∀ text number rest, read text = some (number, rest) → rest.length < text.length)
    {text before after : List Char} {number : Nat}
    (found : findFirst read text = some (before, number, after)) :
    after.length < text.length := by
  induction text generalizing before with
  | nil =>
    simp only [findFirst, Option.map_eq_some_iff, Prod.exists] at found
    obtain ⟨a, b, here, same⟩ := found
    cases same
    exact shorter _ _ _ here
  | cons c rest ih =>
    simp only [findFirst] at found
    split at found
    · rename_i here; cases found; exact shorter _ _ _ here
    · simp only [Option.map_eq_some_iff, Prod.exists] at found
      obtain ⟨a, b, d, later, same⟩ := found
      cases same
      have := ih later; simp; omega

/-- A marked region of a file: the text in front of it, its number and its content. -/
structure Region where
  before : List Char
  number : Nat
  body : List Char
deriving DecidableEq, Repr

/-- Cuts a file at its marks into regions and a tail without open marks. Numbers from `known` on
belong to no fragment; the first close mark after an open one has to carry its number. -/
def splitMarks (marks : MarkStyle) (known : Nat) (text : List Char) :
    Except MarkError (List Region × List Char) :=
  match _opened : findFirst marks.readOpen text with
  | none => .ok ([], text)
  | some (before, number, inner) =>
    if known ≤ number then .error (.unknownFragment number)
    else
      match _closed : findFirst marks.readClose inner with
      | none => .error (.unclosed number)
      | some (body, closing, rest) =>
        if closing ≠ number then .error (.unclosed number)
        else (splitMarks marks known rest).map fun (regions, tail) =>
          (⟨before, number, body⟩ :: regions, tail)
termination_by text.length
decreasing_by
  have := length_findFirst (fun _ _ _ => marks.length_readOpen) _opened
  have := length_findFirst (fun _ _ _ => marks.length_readClose) _closed
  omega

/-- The file that is left when the marks are taken out. -/
def joinRegions (regions : List Region) (tail : List Char) : List Char :=
  regions.flatMap (fun region => region.before ++ region.body) ++ tail

/-- A fragment of the grammar and its copy in a generated file. -/
structure FragmentCopy where
  number : Nat
  generated : Span
  grammar : Span
deriving DecidableEq

structure FragmentMap where
  /-- The generated file without marks. -/
  source : Source
  fragments : List FragmentCopy
deriving DecidableEq

/-- The regions as spans of the file without marks, the first of them after `offset` characters. -/
def placeRegions (source : Source) (fragments : List Span) :
    Nat → List Region → List FragmentCopy
  | _, [] => []
  | offset, region :: regions =>
    let start := offset + region.before.length
    let stop := start + region.body.length
    match fragments[region.number]? with
    | none => placeRegions source fragments stop regions
    | some grammar =>
      ⟨region.number, source.clampedSpan start stop, grammar⟩ ::
        placeRegions source fragments stop regions

/-- The offset of a line, the lines of `text` being numbered from 0 and ended by line feeds. -/
def lineOffset? : List Char → Nat → Option Nat
  | _, 0 => some 0
  | [], _ + 1 => none
  | c :: rest, line + 1 =>
    (lineOffset? rest (if c = '\n' then line else line + 1)).map (· + 1)

/-- How far the line at an offset goes before its terminator. -/
def lineLengthAt (text : List Char) (offset : Nat) : Nat :=
  ((text.drop offset).takeWhile fun c => c ≠ '\n' && c ≠ '\r').length

/-- Where in `grammar` the offset `position` of its copy `generated` comes from; `none` if the copy
has more lines. The first line is copied column for column. A later one may have been indented
anew, so columns there count from its end. -/
def alignedOffset? (generated grammar : List Char) (position : Nat) : Option Nat :=
  let line := (generated.take position).count '\n'
  let lineStart := (lineOffset? generated line).getD 0
  let column := position - lineStart
  match line with
  | 0 => some (min column (lineLengthAt grammar 0))
  | _ + 1 =>
    (lineOffset? grammar line).map fun grammarStart =>
      let length := lineLengthAt grammar grammarStart
      grammarStart + min (column + length - lineLengthAt generated lineStart) length

namespace FragmentMap

/-- Takes the marks out of a generated file. -/
def strip (name : String) (text : String) (marks : MarkStyle) (fragments : List Span) :
    Except MarkError FragmentMap := do
  let (regions, tail) ← splitMarks marks fragments.length text.toList
  let source : Source := ⟨name, String.ofList (joinRegions regions tail)⟩
  return ⟨source, placeRegions source fragments 0 regions⟩

/-- The first fragment whose copy has the position inside it or at either end. -/
def fragmentAt? (file : FragmentMap) (position : Nat) : Option FragmentCopy :=
  file.fragments.find? fun fragment =>
    fragment.generated.start ≤ position && position ≤ fragment.generated.stop

/-- The place in the grammar that a position in a copied fragment comes from, or the whole
fragment if its copy has lines that the fragment lacks. -/
def grammarSpan? (file : FragmentMap) (position : Nat) : Option Span :=
  (file.fragmentAt? position).map fun fragment =>
    let inside := position - fragment.generated.start
    match alignedOffset? fragment.generated.text.toList fragment.grammar.text.toList inside with
    | none => fragment.grammar
    | some offset =>
      let start := fragment.grammar.start + offset
      fragment.grammar.source.clampedSpan start start

end FragmentMap

end GrammarFlow
