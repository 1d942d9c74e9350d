import GrammarFlow.Settings.Decimal
import GrammarFlow.Text.Case
import GrammarFlow.Text.Word

/-!
Settings before they are given a meaning: tables of named values, lists, texts, numbers and
switches. There are two ways of reading them. The strict one takes each value for what it is; the
lenient one, meant for files and overrides written by hand, turns plain values into each other
where that makes sense.
-/

namespace GrammarFlow

inductive Value where
  | null
  | switch (value : Bool)
  | integer (value : Int)
  | real (value : Real64)
  | text (value : String)
  | list (items : List Value)
  | table (entries : List (String × Value))
deriving Repr

instance : Inhabited Value := ⟨.null⟩

/-- How plain values are read. -/
structure Reading where
  text? : Value → Option String
  switch? : Value → Option Bool
  /-- A number of at most 64 bits. -/
  count? : Value → Option Nat
  /-- Whether a word asks for the choice of this name. -/
  chooses : (word name : String) → Bool
  /-- Whether a choice may be given as the name of this value, the only one in a table. -/
  besideChoice : Value → Bool
  /-- Whether a list that stands for a table may be longer than the table. -/
  allowsSurplus : Bool

namespace Reading

def inCount (value : Int) : Option Nat :=
  if 0 ≤ value ∧ value < Text.wordBound then some value.toNat else none

def strict : Reading where
  text?
    | .text value => some value
    | _ => none
  switch?
    | .switch value => some value
    | _ => none
  count?
    | .integer value => inCount value
    | _ => none
  chooses word name := word = name
  besideChoice
    | .null => true
    | _ => false
  allowsSurplus := false

/-- The words that stand for a switch. -/
def switchWord? (word : String) : Option Bool :=
  let word := Text.lowercase word
  if ["true", "on", "yes"].contains word then some true
  else if ["false", "off", "no"].contains word then some false
  else none

def lenientSwitch? : Value → Option Bool
  | .switch value => some value
  | .integer value => some (value ≠ 0)
  | .real value => some (!value.isZero)
  | .text "1" => some true
  | .text "0" => some false
  | .text word => switchWord? word
  | _ => none

/-- Digits, which may have a plus sign before them. -/
def countText? (text : String) : Option Nat :=
  let digits := match text.toList with
    | '+' :: digits => digits
    | digits => digits
  if digits.isEmpty || !digits.all Char.isDigit then none
  else inCount (Nat.ofDigitChars 10 digits 0)

def lenientCount? : Value → Option Nat
  | .switch value => some value.toNat
  | .integer value => inCount value
  | .real value => some value.toCount
  | .text word => (switchWord? word).map Bool.toNat |>.or (countText? word)
  | _ => none

def lenientText? : Value → Option String
  | .text value => some value
  | .switch value => some (if value then "true" else "false")
  | .integer value => some (toString value)
  | .real value => some value.render
  | _ => none

def lenient : Reading where
  text? := lenientText?
  switch? := lenientSwitch?
  count? := lenientCount?
  chooses word name := Text.lowercase word = Text.lowercase name
  besideChoice _ := true
  allowsSurplus := true

end Reading

end GrammarFlow
