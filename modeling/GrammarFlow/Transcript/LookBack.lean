import GrammarFlow.Text.Checked
import GrammarFlow.Transcript.ErrorSpan

/-!
The span of an error, offset by offset. The text that a message quotes is compared with one part of the source
after the other, from the latest backwards; a part that the source does not have and a difference below zero
fail.
-/

namespace GrammarFlow

/-- The latest offset at or before a given one where the input stands. -/
def lookBack? (text input : List Char) (length : Nat) : Nat → Option (Option Nat)
  | 0 => do
    let part ← Text.cut? text 0 length
    return if part = input then some 0 else none
  | earlier + 1 => do
    let part ← Text.cut? text (earlier + 1) (earlier + 1 + length)
    if part = input then return some (earlier + 1) else lookBack? text input length earlier

/-- How far the input goes behind `start`. An occurrence that ends at or before `start` does not count. -/
def reach? (text : List Char) (start : Nat) (input : List Char) : Option Nat := do
  let length := quotedLength input
  if text.length < length then return length
  let room ← Text.minus? text.length length
  let found ← lookBack? text input length (min start room)
  let behind := found.bind fun candidate => Text.minus? (candidate + length) start
  return (behind.filter (0 < ·)).getD length

def errorSpan? (source : Source) (start : Nat) (message : String) : Option Span := do
  let length ← match Clue.ofMessage message.toList with
    | none | some .missing => some 1
    | some (.token quoted) => some (quotedLength (unquote quoted))
    | some (.trailingInput quoted) =>
      let input := unquote quoted
      if quotedLength input = 0 then some 0 else reach? source.chars start input
  source.clampedSpan? start (start + length)

end GrammarFlow
