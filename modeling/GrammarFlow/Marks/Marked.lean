import GrammarFlow.Marks.Mark
import GrammarFlow.Text.Span

/-!
A marked source is a copy of a plain one with marks put in. Beside the text it keeps the offset
just past each mark, so that a place in the copy can be taken back to the plain text: every mark
that ends at or before the place is counted off.
-/

namespace GrammarFlow

structure MarkedSource where
  source : Source
  /-- Where each mark ends, in the marked text. -/
  offsets : List Nat
  markLength : Nat
  plain : Source
deriving DecidableEq, Repr

namespace MarkedSource

/-- The part of the plain source that a part of the marked text stands for. -/
def plainSpan (marked : MarkedSource) (start length : Nat) : Span :=
  let before := marked.offsets.countP (· ≤ start)
  let first := start - before * marked.markLength
  marked.plain.clampedSpan first (first + length)

def checkedPlainSpan (marked : MarkedSource) (start length : Nat) : Text.Checked Span := do
  let before := marked.offsets.countP (· ≤ start)
  let first := start - (← Text.times before marked.markLength)
  return marked.plain.clampedSpan first (← Text.plus first length)

end MarkedSource

/-- A copy under construction: the first `copied` characters of the plain source are in it. -/
structure Marking where
  plain : Source
  markLength : Nat
  copied : Nat
  text : List Char
  offsets : List Nat

namespace Marking

def start (plain : Source) (markLength : Nat) : Marking := ⟨plain, markLength, 0, [], []⟩

/-- Puts a mark in front of the character at `offset` of the plain source. Marks go in from left to
right, and all have the one length. -/
def insert (marking : Marking) (offset : Nat) (mark : String) : Except MarkError Marking :=
  if marking.plain.length < offset then
    .error (.outOfRange offset marking.plain.length)
  else if offset < marking.copied then .error (.unordered offset marking.copied)
  else if mark.length ≠ marking.markLength then
    .error (.lengthMismatch marking.markLength mark.length)
  else
    let between := (marking.plain.chars.drop marking.copied).take (offset - marking.copied)
    let text := marking.text ++ between ++ mark.toList
    .ok { marking with copied := offset, text, offsets := marking.offsets ++ [text.length] }

def finish (marking : Marking) (name : String) : MarkedSource where
  source := ⟨name, String.ofList (marking.text ++ marking.plain.chars.drop marking.copied)⟩
  offsets := marking.offsets
  markLength := marking.markLength
  plain := marking.plain

end Marking

/-- Puts each numbered range between an open and a close mark. The ranges have to be sorted and
apart from each other. -/
def MarkedSource.ofFragments (plain : Source) (marks : MarkStyle)
    (fragments : List (Nat × Span)) : Except MarkError MarkedSource := do
  let marking ← fragments.foldlM
    (fun marking (number, fragment) => do
      let marking ← marking.insert fragment.start (marks.openMark number)
      marking.insert fragment.stop (marks.closeMark number))
    (Marking.start plain marks.markLength)
  return marking.finish plain.name

end GrammarFlow
