import GrammarFlow.Text.Span
import GrammarFlow.Text.Word

/-!
Parts of a text by numbers of 64 bits. A start and a length need not have a sum of 64 bits: such a sum is refused,
or it wraps. Only a part of an ASCII text, which is cut out of its bytes, and the check of a span need the sum.
-/

namespace GrammarFlow

namespace Text

/-- What becomes of a sum that 64 bits do not hold. -/
inductive Overflow where
  | refused
  | wrapped
deriving DecidableEq, Repr

/-- The sum of two numbers of 64 bits is one as well. -/
def SumFits (a b : UInt64) : Prop := a.toNat + b.toNat < wordBound

instance (a b : UInt64) : Decidable (SumFits a b) := inferInstanceAs (Decidable (a.toNat + b.toNat < wordBound))

/-- The sum of two numbers of 64 bits, if it is not refused. -/
def Overflow.add? (overflow : Overflow) (a b : UInt64) : Option UInt64 :=
  if SumFits a b ∨ overflow = .wrapped then some (a + b) else none

end Text

namespace Source

/-- What `sliceBytes` cuts out, by the sum of a start and a length. -/
def sliceBytes? (source : Source) (overflow : Text.Overflow) (start length : UInt64) : Option (List Char) := do
  let bytes := Text.Utf8.encode source.chars
  let stop := min (← overflow.add? start length).toNat bytes.length
  return ((bytes.take stop).drop (min start.toNat stop)).map fun byte => Char.ofNat byte.toNat

/-- The characters from `start` on, at most `length` of them, if the sum that cuts them out is not refused. -/
def slice? (source : Source) (overflow : Text.Overflow) (start length : UInt64) : Option String :=
  if source.isAscii then (source.sliceBytes? overflow start length).map String.ofList
  else some (String.ofList (source.sliceChars start.toNat length.toNat))

/-- The check of a span lets a range through whose end, as it is summed, is in the text. -/
def admits (source : Source) (overflow : Text.Overflow) (start length : UInt64) : Bool :=
  (overflow.add? start length).any fun stop => stop.toNat ≤ source.length

end Source

def Span.text? (span : Span) (overflow : Text.Overflow) : Option String :=
  span.source.slice? overflow (.ofNat span.start) (.ofNat span.length)

end GrammarFlow
