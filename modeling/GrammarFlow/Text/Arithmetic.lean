import GrammarFlow.Text.Word

/-!
Sums and products of numbers of 64 bits. One that 64 bits do not hold ends the computation that it is part of. Where a
function has a checked form beside it, the checked form is what a session runs, and the plain one says in natural
numbers what comes of it as long as nothing exceeds 64 bits.
-/

namespace GrammarFlow.Text

/-- A result that 64 bits do not hold. -/
inductive Excess where
  | sum
  | product
deriving DecidableEq, Repr

def Excess.message : Excess → String
  | sum => "attempt to add with overflow"
  | product => "attempt to multiply with overflow"

/-- What is computed in 64 bits. -/
abbrev Checked := Except Excess

def plus (a b : Nat) : Checked Nat := if a + b < wordBound then .ok (a + b) else .error .sum

def times (a b : Nat) : Checked Nat := if a * b < wordBound then .ok (a * b) else .error .product

end GrammarFlow.Text
