import GrammarFlow.Text.Blank
import GrammarFlow.Text.Source
import GrammarFlow.Text.Quoted

/-!
A span is a range of characters of one source and never leaves it. The same range can be read in
positions; on spans of a source the two readings determine each other.
-/

namespace GrammarFlow

structure Span where
  source : Source
  start : Nat
  length : Nat
  inside : start + length ≤ source.length
deriving DecidableEq

structure PositionSpan where
  source : Source
  first : Position
  last : Position
deriving DecidableEq, Repr

namespace Span

/-- The zero-length span of an empty unnamed source, for what has no place. -/
def empty : Span := ⟨⟨"", ""⟩, 0, 0, Nat.zero_le _⟩

instance : Inhabited Span := ⟨empty⟩

def stop (span : Span) : Nat := span.start + span.length

def isEmpty (span : Span) : Bool := span.length = 0

def contains (span : Span) (offset : Nat) : Bool := span.start ≤ offset && offset < span.stop

def text (span : Span) : String := span.source.slice span.start span.length

/-- Spans are ordered by start and then by length, and only within one source. -/
def compare? (a b : Span) : Option Ordering :=
  if a.source = b.source then
    some ((compare a.start b.start).then (compare a.length b.length))
  else none

def positions (span : Span) : PositionSpan :=
  ⟨span.source, span.source.positionAt span.start, span.source.positionAt span.stop⟩

def render (span : Span) : String :=
  "[" ++ toString span.start ++ ".." ++ toString span.stop ++ ")"

def describe (span : Span) : String :=
  "TextSpan(" ++ span.source.name ++ ", " ++ span.render ++ ")"

end Span

namespace Source

def span (source : Source) (start length : Nat) : Except Violation Span :=
  if inside : start + length ≤ source.length then .ok ⟨source, start, length, inside⟩
  else .error (.spanOutside source start length)

def checkedSpan (source : Source) (start length : Nat) : ExceptT Violation Text.Checked Span := do
  let _stop ← Text.plus start length
  ExceptT.mk (.ok (source.span start length))

/-- The span between two offsets, both moved into the source. -/
def clampedSpan (source : Source) (start stop : Nat) : Span :=
  let first := min start source.length
  ⟨source, first, min (max stop first) source.length - first, by omega⟩

theorem lineStartsAfter_le (chars : List Char) (offset : Nat) :
    ∀ start ∈ lineStartsAfter offset chars, start ≤ offset + chars.length := by
  fun_induction lineStartsAfter offset chars with
  | case1 => simp
  | case2 offset rest ih =>
    intro start member
    rcases List.mem_cons.mp member with rfl | later
    · simp
    · have := ih start later; simp; omega
  | case3 offset c rest _ _ ih =>
    intro start member
    rcases List.mem_cons.mp member with rfl | later
    · simp
    · have := ih start later; simp; omega
  | case4 offset c rest _ _ ih =>
    intro start member
    have := ih start member; simp; omega

theorem lineStart_le {source : Source} {index start : Nat}
    (found : source.lineStarts[index]? = some start) : start ≤ source.length := by
  rcases List.mem_cons.mp (List.mem_of_getElem? found) with rfl | later
  · exact Nat.zero_le _
  · simpa [Source.length] using lineStartsAfter_le source.chars 0 start later

/-- The content of a line, its terminator left out. -/
def lineSpan (source : Source) (line : Nat) : Option Span :=
  match line with
  | 0 => none
  | index + 1 =>
    match source.lineStarts[index]? with
    | none => none
    | some start =>
      let stop := source.lineStarts[index + 1]?.getD source.length
      let content := (source.slice start (stop - start)).toList
      let kept := Text.trimEndChars isTerminator content
      some (source.clampedSpan start (start + kept.length))

def lineText (source : Source) (line : Nat) : Option String := (source.lineSpan line).map Span.text

def describe (source : Source) : String :=
  "Source \x7b name: " ++ Text.quoted source.name ++ ", len: " ++ toString source.length ++
    ", lines: " ++ toString source.lineCount ++ " \x7d"

end Source

namespace PositionSpan

/-- Offsets that lie the wrong way round give an empty span. -/
def checkedToSpan (span : PositionSpan) : ExceptT Violation Text.Checked Span := do
  let start ← span.source.checkedOffsetAt span.first
  let stop ← span.source.checkedOffsetAt span.last
  span.source.checkedSpan start (stop - start)

def render (span : PositionSpan) : String :=
  let lead := "[" ++ toString span.first.line ++ "," ++ toString span.first.column
  if span.first = span.last then lead ++ ")"
  else if span.first.line = span.last.line then
    lead ++ ".." ++ toString span.last.column ++ ")"
  else
    lead ++ ".." ++ toString span.last.line ++ "," ++ toString span.last.column ++ ")"

def describe (span : PositionSpan) : String :=
  "LineColumnTextSpan(" ++ span.source.name ++ ", " ++ span.render ++ ")"

end PositionSpan

end GrammarFlow
