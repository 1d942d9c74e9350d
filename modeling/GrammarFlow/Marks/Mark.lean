import GrammarFlow.Text.Source

/-!
Marks are comments of one fixed length that tell where a fragment of a grammar begins and ends:
`/*#fragment_007*/` opens fragment 7 and `/*fragment_007#*/` closes it. The comment syntax is
that of the language the fragment is written in.
-/

namespace GrammarFlow

/-- The delimiters of a comment. -/
structure MarkStyle where
  opening : String
  closing : String
deriving DecidableEq, Repr

def fragmentDigits : Nat := 3

/-- Decimal digits, filled up with zeros on the left. -/
def paddedDigits (width number : Nat) : List Char :=
  let digits := Nat.toDigits 10 number
  List.replicate (width - digits.length) '0' ++ digits

def fragmentName (number : Nat) : String :=
  "fragment_" ++ String.ofList (paddedDigits fragmentDigits number)

/-- What is left of a text after its first characters, if those are the given ones. -/
def dropLead : List Char → List Char → Option (List Char)
  | [], rest => some rest
  | _ :: _, [] => none
  | a :: lead, b :: rest => if a = b then dropLead lead rest else none

theorem dropLead_eq_some {lead text rest : List Char} :
    dropLead lead text = some rest ↔ text = lead ++ rest := by
  induction lead generalizing text with
  | nil => simp [dropLead, eq_comm]
  | cons a lead ih =>
    cases text with
    | nil => simp [dropLead]
    | cons b text =>
      by_cases same : a = b
      · simp [dropLead, same, ih]
      · simp [dropLead, same, Ne.symm (a := a) (b := b) same]

/-- The number that opens a text, if it has exactly the digits of a fragment number. -/
def readNumber (text : List Char) : Option (Nat × List Char) :=
  let digits := text.take fragmentDigits
  if digits.length = fragmentDigits ∧ digits.all Char.isDigit then
    some (Nat.ofDigitChars 10 digits 0, text.drop fragmentDigits)
  else none

namespace MarkStyle

instance : Inhabited MarkStyle := ⟨⟨"/*", "*/"⟩⟩

def openMark (marks : MarkStyle) (number : Nat) : String :=
  marks.opening ++ "#" ++ fragmentName number ++ marks.closing

def closeMark (marks : MarkStyle) (number : Nat) : String :=
  marks.opening ++ fragmentName number ++ "#" ++ marks.closing

/-- The length of every mark whose number has no more digits than a fragment number. -/
def markLength (marks : MarkStyle) : Nat := (marks.openMark 0).length

/-- Reads an open mark at the beginning of a text. -/
def readOpen (marks : MarkStyle) (text : List Char) : Option (Nat × List Char) := do
  let rest ← dropLead (marks.opening.toList ++ "#fragment_".toList) text
  let (number, rest) ← readNumber rest
  let rest ← dropLead marks.closing.toList rest
  return (number, rest)

/-- Reads a close mark at the beginning of a text. -/
def readClose (marks : MarkStyle) (text : List Char) : Option (Nat × List Char) := do
  let rest ← dropLead (marks.opening.toList ++ "fragment_".toList) text
  let (number, rest) ← readNumber rest
  let rest ← dropLead ('#' :: marks.closing.toList) rest
  return (number, rest)

end MarkStyle

inductive MarkError where
  | unordered (offset previous : Nat)
  | lengthMismatch (expected found : Nat)
  | outOfRange (offset length : Nat)
  /-- An open mark that the next close mark does not match. -/
  | unclosed (number : Nat)
  /-- A mark whose number belongs to no fragment of the grammar. -/
  | unknownFragment (number : Nat)
deriving DecidableEq, Repr

def MarkError.message : MarkError → String
  | .unordered offset previous =>
    "mark at offset " ++ toString offset ++ " inserted after a mark at offset " ++
      toString previous
  | .lengthMismatch expected found =>
    "mark of length " ++ toString found ++ " does not match the mark length " ++
      toString expected
  | .outOfRange offset length =>
    "mark offset " ++ toString offset ++ " is outside of a source of length " ++ toString length
  | .unclosed number => "fragment " ++ toString number ++ " has no close mark"
  | .unknownFragment number =>
    "fragment " ++ toString number ++ " does not map to a grammar fragment"

end GrammarFlow
