/-!
Numbers with 53 significant bits, as fractions of whole numbers. A quotient is rounded to the
nearest such number and, from halfway between two, to the one whose last bit is 0. Very large and
very small quotients are rounded like the others: there is no bound on the exponent.
-/

namespace GrammarFlow.Text

/-- The whole number nearest to a quotient; halves go to the even one. -/
def roundToEven (numerator denominator : Nat) : Nat :=
  let quotient := numerator / denominator
  let double := 2 * (numerator % denominator)
  if double < denominator then quotient
  else if denominator < double then quotient + 1
  else quotient + quotient % 2

/-- The whole number nearest to a quotient; halves go up. -/
def roundHalfUp (numerator denominator : Nat) : Nat :=
  (2 * numerator + denominator) / (2 * denominator)

/-- A quotient times 2 to the power of `exponent`, as numerator and denominator. -/
def scaled (numerator denominator : Nat) (exponent : Int) : Nat × Nat :=
  (numerator * Nat.pow 2 exponent.toNat, denominator * Nat.pow 2 (-exponent).toNat)

/-- The nearest number with 53 significant bits. -/
def binary64 (numerator denominator : Nat) : Nat × Nat :=
  if numerator = 0 then (0, 1)
  else
    let guess : Int := 52 - (numerator.log2 : Int) + denominator.log2
    let (a, b) := scaled numerator denominator guess
    let exponent := if a / b < Nat.pow 2 52 then guess + 1 else guess
    let (a, b) := scaled numerator denominator exponent
    scaled (roundToEven a b) 1 (-exponent)

end GrammarFlow.Text
