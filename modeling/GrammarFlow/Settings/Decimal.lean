import GrammarFlow.Text.Binary64
import GrammarFlow.Text.Word

/-!
Binary numbers and their decimal text: the fewest digits that are read back as the same number,
without an exponent, and of several such texts the nearest.
-/

namespace GrammarFlow

/-- A number with 53 significant bits, as a fraction with a sign, or one of the special ones. -/
inductive Real64 where
  | finite (negative : Bool) (numerator denominator : Nat)
  | infinite (negative : Bool)
  | nan
deriving DecidableEq, Repr

namespace Real64

/-- A power of ten; 1 where the exponent is negative. -/
def tenTo (exponent : Int) : Nat := Nat.pow 10 exponent.toNat

/-- The number nearest to `digits` times 10 to the power of `exponent`; none if it is too large. -/
def ofDecimal? (negative : Bool) (digits : Nat) (exponent : Int) : Option Real64 :=
  let (a, b) := Text.binary64 (digits * tenTo exponent) (tenTo (-exponent))
  if a < Nat.pow 2 1024 * b then some (finite negative a b) else none

/-- Two fractions are the same number. -/
def sameFraction (p q : Nat × Nat) : Bool := p.1 * q.2 = q.1 * p.2

/-- How many digits stand before the point of a fraction; at least 0 if it is at least 1/10, and
fewer the smaller it is. -/
def magnitude (a b : Nat) : Int :=
  if b ≤ a then (Nat.toDigits 10 (a / b)).length
  else
    let shifts := (Nat.toDigits 10 (b / a)).length
    if b ≤ a * Nat.pow 10 (shifts - 1) then 2 - shifts else 1 - shifts

/-- A decimal of so many digits that is read back as the fraction: its digits, as a number, and the
power of ten they are multiplied by. -/
def decimalOf? (a b count : Nat) : Option (Nat × Int) :=
  let exponent := magnitude a b - count
  let (c, d) := (a * tenTo (-exponent), b * tenTo exponent)
  let below := c / d
  let reads (digits : Nat) : Bool :=
    sameFraction (Text.binary64 (digits * tenTo exponent) (tenTo (-exponent))) (a, b)
  let nearest := if 2 * (c % d) ≤ d then [below, below + 1] else [below + 1, below]
  (nearest.find? reads).map (·, exponent)

/-- Seventeen digits are always enough. -/
def shortest (a b : Nat) : Nat × Int :=
  ((List.range 17).findSome? fun count => decimalOf? a b (count + 1)).getD (0, 0)

/-- Digits with a point put `places` before their end. -/
def withPoint (digits : List Char) (places : Nat) : String :=
  let filled := List.replicate (places + 1 - digits.length) '0' ++ digits
  let whole := filled.take (filled.length - places)
  let fraction := (filled.drop (filled.length - places)).reverse.dropWhile (· = '0') |>.reverse
  String.ofList (if fraction.isEmpty then whole else whole ++ '.' :: fraction)

def render : Real64 → String
  | finite negative a b =>
    let sign := if negative then "-" else ""
    if a = 0 then sign ++ "0"
    else
      let (digits, exponent) := shortest a b
      let text := Nat.toDigits 10 digits
      sign ++ withPoint (text ++ List.replicate exponent.toNat '0') (-exponent).toNat
  | infinite negative => if negative then "-inf" else "inf"
  | nan => "NaN"

def isZero : Real64 → Bool
  | finite _ a _ => a = 0
  | _ => false

/-- The nearest whole number of 64 bits; halves go up, and what lies outside goes to the end. -/
def toCount : Real64 → Nat
  | finite negative a b => if negative then 0 else min (Text.roundHalfUp a b) (Text.wordBound - 1)
  | infinite negative => if negative then 0 else Text.wordBound - 1
  | nan => 0

end Real64

end GrammarFlow
