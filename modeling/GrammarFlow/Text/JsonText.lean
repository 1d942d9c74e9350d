/-!
Values in JSON and their text. Each item of a list and each field of an object stands on a line of
its own, two spaces to the right of what holds it.
-/

namespace GrammarFlow

inductive JsonText where
  | null
  | number (value : Nat)
  | text (value : String)
  | list (items : List JsonText)
  | object (fields : List (String × JsonText))
deriving Repr

namespace JsonText

/-- Quotes, backslashes and controls are escaped, all else stands for itself. -/
def escapeChar (c : Char) : List Char :=
  match c with
  | '"' => ['\\', '"']
  | '\\' => ['\\', '\\']
  | '\x08' => ['\\', 'b']
  | '\x0c' => ['\\', 'f']
  | '\n' => ['\\', 'n']
  | '\r' => ['\\', 'r']
  | '\t' => ['\\', 't']
  | c =>
    if c < ' ' then
      ['\\', 'u', '0', '0', Nat.digitChar (c.toNat / 16), Nat.digitChar (c.toNat % 16)]
    else [c]

def quote (text : String) : List Char := '"' :: text.toList.flatMap escapeChar ++ ['"']

/-- A new line on a level. -/
def newLine (level : Nat) : List Char := '\n' :: List.replicate (2 * level) ' '

mutual

def chars (level : Nat) : JsonText → List Char
  | null => "null".toList
  | number value => Nat.toDigits 10 value
  | text value => quote value
  | list [] => ['[', ']']
  | list (item :: items) =>
    '[' :: newLine (level + 1) ++ chars (level + 1) item ++ itemChars (level + 1) items
      ++ newLine level ++ [']']
  | object [] => ['\x7b', '\x7d']
  | object ((name, value) :: fields) =>
    '\x7b' :: newLine (level + 1) ++ quote name ++ ':' :: ' ' :: chars (level + 1) value
      ++ fieldChars (level + 1) fields ++ newLine level ++ ['\x7d']

/-- The items of a list behind its first. -/
def itemChars (level : Nat) : List JsonText → List Char
  | [] => []
  | item :: items => ',' :: newLine level ++ chars level item ++ itemChars level items

/-- The fields of an object behind its first. -/
def fieldChars (level : Nat) : List (String × JsonText) → List Char
  | [] => []
  | (name, value) :: fields =>
    ',' :: newLine level ++ quote name ++ ':' :: ' ' :: chars level value ++ fieldChars level fields

end

def render (value : JsonText) : String := String.ofList (chars 0 value)

end JsonText

end GrammarFlow
