import GrammarFlow.Settings.Toml.Scalar

/-!
TOML documents: tables, lists and the lines that define them. Every name is defined once. A table
with a header may be opened before or after the tables inside it, but keys with dots do not reach
into it, and what stands between braces or brackets is complete.
-/

namespace GrammarFlow.Toml

/-- How a table has come about. -/
inductive Origin where
  /-- By a header of its own. -/
  | header
  /-- By the header of a table inside it. -/
  | implied
  /-- By a key with dots. -/
  | dotted
deriving DecidableEq, Repr

/-- What a name stands for while a document is being read. -/
inductive Item where
  | value (value : Value)
  | table (origin : Origin) (entries : List (String × Item))
  /-- Tables with one header each, latest first. -/
  | tables (elements : List (List (String × Item)))
deriving Repr

abbrev Entries := List (String × Item)

def put (name : String) (item : Item) (entries : Entries) : Entries :=
  if entries.any (·.1 = name) then
    entries.map fun entry => if entry.1 = name then (name, item) else entry
  else entries ++ [(name, item)]

/-- Defines a key in a table. The tables that its names but the last lead through have no header,
and the one that gets the value is new or made by keys with dots. -/
def define (value : Value) : List String → Entries → Option Entries
  | [], _ => none
  | [name], entries =>
    if entries.any (·.1 = name) then none else some (entries ++ [(name, .value value)])
  | name :: names, entries => do
    let (origin, inner) ← match entries.lookup name, names with
      | none, _ => some (.dotted, [])
      | some (.table .dotted inner), _ => some (.dotted, inner)
      | some (.table .implied inner), _ :: _ :: _ => some (.implied, inner)
      | some _, _ => none
    return put name (.table origin (← define value names inner)) entries

/-- Does something to the table that a header's names lead to; missing tables are made. -/
def within (change : Entries → Option Entries) : List String → Entries → Option Entries
  | [], entries => change entries
  | name :: names, entries => do
    match entries.lookup name with
    | none => return put name (.table .implied (← within change names [])) entries
    | some (.table origin inner) =>
      return put name (.table origin (← within change names inner)) entries
    | some (.tables (latest :: earlier)) =>
      return put name (.tables ((← within change names latest) :: earlier)) entries
    | some _ => none

/-- Opens a table by its header. -/
def openTable (path : List String) (root : Entries) : Option Entries := do
  let name ← path.getLast?
  within
    (fun entries =>
      match entries.lookup name with
      | none => some (entries ++ [(name, .table .header [])])
      | some (.table .implied inner) => some (put name (.table .header inner) entries)
      | some _ => none)
    path.dropLast root

/-- Adds a table to a list of tables by its header. -/
def openElement (path : List String) (root : Entries) : Option Entries := do
  let name ← path.getLast?
  within
    (fun entries =>
      match entries.lookup name with
      | none => some (entries ++ [(name, .tables [[]])])
      | some (.tables elements) => some (put name (.tables ([] :: elements)) entries)
      | some _ => none)
    path.dropLast root

mutual

def itemValue : Item → Value
  | .value value => value
  | .table _ entries => .table (entryValues entries)
  | .tables elements => .list (elementValues elements).reverse

def entryValues : List (String × Item) → List (String × Value)
  | [] => []
  | (name, item) :: rest => (name, itemValue item) :: entryValues rest

def elementValues : List (List (String × Item)) → List Value
  | [] => []
  | entries :: rest => .table (entryValues entries) :: elementValues rest

end

mutual

/-- Any value. -/
def readValue : Nat → List Char → Option (Value × List Char)
  | 0, _ => none
  | fuel + 1, text =>
    match text with
    | '[' :: rest => readItems fuel [] rest
    | '\x7b' :: rest =>
      match skipSpace rest with
      | '\x7d' :: rest => some (.table [], rest)
      | rest => readPairs fuel [] rest
    | text => readScalar text

/-- The items of a list, behind its bracket; those read are given latest first. -/
def readItems : Nat → List Value → List Char → Option (Value × List Char)
  | 0, _, _ => none
  | fuel + 1, read, text =>
    match skipLines text.length text with
    | ']' :: rest => some (.list read.reverse, rest)
    | text => do
      let (value, rest) ← readValue fuel text
      match skipLines rest.length rest with
      | ',' :: rest => readItems fuel (value :: read) rest
      | ']' :: rest => some (.list (value :: read).reverse, rest)
      | _ => none

/-- The entries of a table between braces, which stand on one line. -/
def readPairs : Nat → Entries → List Char → Option (Value × List Char)
  | 0, _, _ => none
  | fuel + 1, entries, text => do
    let (key, rest) ← readKey (text.length + 1) text
    let rest ← expect '=' rest
    let (value, rest) ← readValue fuel (skipSpace rest)
    let entries ← define value key entries
    match skipSpace rest with
    | ',' :: rest => readPairs fuel entries rest
    | '\x7d' :: rest => some (.table (entryValues entries), rest)
    | _ => none

end

/-- The header of a table, behind its brackets, and how it opens one. -/
def readHeader (text : List Char) : Option ((List String × Bool) × List Char) :=
  match text with
  | '[' :: rest => do
    let (path, rest) ← readKey (rest.length + 1) rest
    let rest ← expect ']' (← expect ']' rest)
    return ((path, true), rest)
  | rest => do
    let (path, rest) ← readKey (rest.length + 1) rest
    return ((path, false), ← expect ']' rest)

/-- Reads the lines of a document, of which there are at most so many. Keys go into the table that
was opened last. -/
def readDocument : Nat → (path : List String) → Entries → List Char → Option Entries
  | 0, _, _, _ => none
  | fuel + 1, path, root, text =>
    match skipLines text.length text with
    | [] => some root
    | '[' :: rest => do
      let ((header, isElement), rest) ← readHeader rest
      let root ← if isElement then openElement header root else openTable header root
      readDocument fuel header root (← readLineEnd? rest)
    | text => do
      let (key, rest) ← readKey (text.length + 1) text
      let rest ← expect '=' rest
      let (value, rest) ← readValue (rest.length + 1) (skipSpace rest)
      let root ← within (define value key) path root
      readDocument fuel path root (← readLineEnd? rest)

/-- The entries of a document; `none` if it is not well formed. -/
def read? (document : String) : Option (List (String × Value)) := do
  let text := document.toList
  let text := if text.head? = some '\ufeff' then text.tail else text
  return entryValues (← readDocument (text.length + 1) [] [] text)

end GrammarFlow.Toml
