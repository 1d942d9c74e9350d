import GrammarFlow.Text.Span

/-!
Reading a text by offsets. A range that a text does not have and a difference below zero are failures here, and
are not cut down to something that exists.
-/

namespace GrammarFlow.Text

/-- A difference, if it is not below zero. -/
def minus? (a b : Nat) : Option Nat := if b ≤ a then some (a - b) else none

/-- The characters from `start` up to `stop`, if the text has such a range. -/
def cut? (text : List Char) (start stop : Nat) : Option (List Char) :=
  if start ≤ stop ∧ stop ≤ text.length then some ((text.drop start).take (stop - start)) else none

/-- How many bytes there are in front of an offset. -/
def byteOffset (text : List Char) (offset : Nat) : Nat := (Utf8.encode (text.take offset)).length

/-- How many characters there are in front of a byte, if one of the text's characters begins or ends there. -/
def charOffset? (text : List Char) (byte : Nat) : Option Nat :=
  let bytes := Utf8.encode text
  if byte ≤ bytes.length then (Utf8.decode? (bytes.take byte)).map List.length else none

theorem minus?_of_le {a b : Nat} (le : b ≤ a) : minus? a b = some (a - b) := if_pos le

theorem minus?_of_lt {a b : Nat} (lt : a < b) : minus? a b = none := if_neg (Nat.not_le_of_lt lt)

theorem cut?_of_inside {text : List Char} {start stop : Nat} (forward : start ≤ stop) (inside : stop ≤ text.length) :
    cut? text start stop = some ((text.drop start).take (stop - start)) := if_pos ⟨forward, inside⟩

end GrammarFlow.Text

namespace GrammarFlow

/-- The span between two offsets, both moved into the source; to move an offset between bounds, these have to be
in order. -/
def Source.clampedSpan? (source : Source) (start stop : Nat) : Option Span := do
  let first := min start source.length
  let last ← if first ≤ source.length then some (min (max stop first) source.length) else none
  let length ← Text.minus? last first
  (source.span first length).toOption

theorem Source.clampedSpan?_eq (source : Source) (start stop : Nat) :
    source.clampedSpan? start stop = some (source.clampedSpan start stop) := by
  have first : min start source.length ≤ source.length := Nat.min_le_right _ _
  have forward : min start source.length ≤ min (max stop (min start source.length)) source.length := by omega
  have inside : min start source.length +
      (min (max stop (min start source.length)) source.length - min start source.length) ≤ source.length := by omega
  simp only [clampedSpan?, Option.bind_eq_bind, if_pos first, Option.bind_some, Text.minus?_of_le forward, span,
    dif_pos inside]
  rfl

end GrammarFlow
