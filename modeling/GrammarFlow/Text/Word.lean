/-!
The range of whole numbers that fit in 64 bits.
-/

namespace GrammarFlow.Text

/-- Numbers of 64 bits lie below this bound. -/
def wordBound : Nat := 0x10000000000000000

/-- Numbers of 64 bits, one of them for the sign, lie below this bound and not below minus it. -/
def signedBound : Nat := 0x8000000000000000

end GrammarFlow.Text
