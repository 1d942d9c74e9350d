import GrammarFlow.Settings.Value
import GrammarFlow.Text.Blank
import GrammarFlow.Text.Word

/-!
Settings in layers. A later table is merged into an earlier one, name by name; any other value
replaces what was there. Names are not told apart by case. An override names one value by its path
of names and list indices, and makes whatever is missing on the way.
-/

namespace GrammarFlow

namespace Value

def putEntry (name : String) (value : Value) (entries : List (String × Value)) :
    List (String × Value) :=
  if entries.any (·.1 = name) then
    entries.map fun entry => if entry.1 = name then (name, value) else entry
  else entries ++ [(name, value)]

/-- The entries of a table; any other value is replaced by an empty one. -/
def entriesOf : Value → List (String × Value)
  | table entries => entries
  | _ => []

mutual

/-- Gives a name in a table a value, merging it into the one that is there. -/
def assign (name : String) : Value → Value → Value
  | table incoming, root =>
    let name := Text.lowercase name
    let entries := entriesOf root
    let merged := assignAll incoming ((entries.lookup name).getD (table []))
    table (putEntry name merged entries)
  | null, root => table (putEntry (Text.lowercase name) null (entriesOf root))
  | switch value, root => table (putEntry (Text.lowercase name) (switch value) (entriesOf root))
  | integer value, root => table (putEntry (Text.lowercase name) (integer value) (entriesOf root))
  | real value, root => table (putEntry (Text.lowercase name) (real value) (entriesOf root))
  | text value, root => table (putEntry (Text.lowercase name) (text value) (entriesOf root))
  | list items, root => table (putEntry (Text.lowercase name) (list items) (entriesOf root))

/-- Gives several names their values, one after the other. -/
def assignAll : List (String × Value) → Value → Value
  | [], root => root
  | (name, value) :: rest, root => assignAll rest (assign name value root)

end

end Value

/-- A step into a value. An index below 0 counts from the end of the list. -/
inductive PathStep where
  | child (name : String)
  | index (position : Int)
deriving DecidableEq, Repr

structure ValuePath where
  first : String
  steps : List PathStep
deriving DecidableEq, Repr

namespace ValuePath

def isNameChar (c : Char) : Bool := c.isAlphanum || c = '_' || c = '-' || c = ' '

def isSpace (c : Char) : Bool := c = ' ' || c = '\t'

/-- The number of an index, in digits that may have a minus sign; blanks around it do not count. -/
def readIndex? (text : List Char) : Option Int :=
  let digits := Text.trimEndChars isSpace (text.dropWhile isSpace)
  let (negative, digits) := match digits with
    | '-' :: digits => (true, digits)
    | digits => (false, digits)
  let value := Nat.ofDigitChars 10 digits 0
  if digits.isEmpty || !digits.all Char.isDigit || Text.signedBound ≤ value then none
  else some (if negative then -value else value)

/-- The steps that a text spells, of which there are at most as many as it has characters. -/
def readSteps : Nat → List Char → Option (List PathStep)
  | _, [] => some []
  | 0, _ => none
  | fuel + 1, '.' :: rest =>
    let name := rest.takeWhile isNameChar
    if name.isEmpty then none
    else (readSteps fuel (rest.dropWhile isNameChar)).map (.child (String.ofList name) :: ·)
  | fuel + 1, '[' :: rest =>
    match rest.dropWhile (· ≠ ']') with
    | _ :: behind => do
      let position ← readIndex? (rest.takeWhile (· ≠ ']'))
      return .index position :: (← readSteps fuel behind)
    | [] => none
  | _, _ => none

/-- Reads a path such as `a.b[0]`. -/
def ofString? (text : String) : Option ValuePath :=
  let chars := text.toList
  let first := chars.takeWhile isNameChar
  if first.isEmpty then none
  else (readSteps chars.length (chars.dropWhile isNameChar)).map (⟨String.ofList first, ·⟩)

/-- Changes one item of a list. Missing items are filled in with nulls, at the end or, for an index
that counts back too far, at the beginning. -/
def changeItem (position : Int) (change : Value → Value) (items : List Value) : List Value :=
  if 0 ≤ position then
    let index := position.toNat
    let filled := items ++ List.replicate (index + 1 - items.length) .null
    filled.modify index change
  else
    let back := (-position).toNat
    let filled := List.replicate (back - items.length) .null ++ items
    filled.modify (filled.length - back) change

def itemsOf : Value → List Value
  | .list items => items
  | _ => []

/-- Puts a value where the steps lead from `here`. -/
def setSteps (value : Value) : List PathStep → Value → Value
  | [], _ => value
  | [.child name], here => Value.assign name value here
  | .child name :: steps, here =>
    let name := Text.lowercase name
    let entries := here.entriesOf
    .table (Value.putEntry name (setSteps value steps ((entries.lookup name).getD .null)) entries)
  | .index position :: steps, here =>
    .list (changeItem position (setSteps value steps) (itemsOf here))

/-- Puts a value where a path leads. -/
def set (path : ValuePath) (value root : Value) : Value :=
  match path.steps with
  | [] => Value.assign path.first value root
  | steps =>
    let name := Text.lowercase path.first
    let entries := root.entriesOf
    .table (Value.putEntry name (setSteps value steps ((entries.lookup name).getD .null)) entries)

end ValuePath

/-- Puts a layer on top of others. A name at the top of a layer may itself be a path. -/
def addLayer (root : Value) (layer : List (String × Value)) : Value :=
  layer.foldl
    (fun root (name, value) =>
      match ValuePath.ofString? name with
      | some path => path.set value root
      | none => Value.assign name value root)
    root

end GrammarFlow
