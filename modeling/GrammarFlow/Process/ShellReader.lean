/-!
How a shell reads a command line. Blanks part its words. A backslash quotes one character, single quotes quote all
characters between them, and double quotes all but a few. A line that asks a shell for more than words, such as an
expansion or a second command, is not read.
-/

namespace GrammarFlow.Shell

/-- How the next character of a command line is quoted. -/
inductive Quoting where
  | bare
  /-- By a backslash outside of quotes. -/
  | escaped
  | single
  | double
  /-- By a backslash between double quotes. -/
  | doubleEscaped
deriving DecidableEq, Repr

/-- Characters that may stand for something else than themselves when they are not quoted. -/
def reserved : List Char :=
  ['|', '&', ';', '<', '>', '(', ')', '$', '\x60', '\n', '*', '?', '[', '#', '~', '=', '%', '!', '\x7b', '\x7d', '^']

/-- Between double quotes a backslash quotes these characters only, and else stands for itself. -/
def doubleEscapes : List Char := ['$', '\x60', '"', '\\']

/-- A command line that has been read up to one of its characters. -/
structure Reader where
  words : List (List Char)
  /-- The word that is being read, if one has begun. -/
  word : Option (List Char)
  quoting : Quoting
deriving DecidableEq, Repr

namespace Reader

def start : Reader := ⟨[], none, .bare⟩

/-- Goes on with the word that is being read, or begins one. -/
def add (reader : Reader) (text : List Char) : Reader :=
  { reader with word := some (reader.word.getD [] ++ text) }

def turn (reader : Reader) (quoting : Quoting) : Reader := { reader with quoting }

/-- All words, if the line ends here. -/
def allWords (reader : Reader) : List (List Char) := reader.words ++ reader.word.toList

def step (reader : Reader) (c : Char) : Option Reader :=
  match reader.quoting with
  | .bare =>
    if c = ' ' ∨ c = '\t' then some ⟨reader.allWords, none, .bare⟩
    else if c = '\'' then some ((reader.add []).turn .single)
    else if c = '"' then some ((reader.add []).turn .double)
    else if c = '\\' then some (reader.turn .escaped)
    else if c ∈ reserved then none
    else some (reader.add [c])
  | .escaped => some ((if c = '\n' then reader else reader.add [c]).turn .bare)
  | .single => some (if c = '\'' then reader.turn .bare else reader.add [c])
  | .double =>
    if c = '"' then some (reader.turn .bare)
    else if c = '\\' then some (reader.turn .doubleEscaped)
    else if c = '$' ∨ c = '\x60' then none
    else some (reader.add [c])
  | .doubleEscaped =>
    let read := if c = '\n' then reader else reader.add (if c ∈ doubleEscapes then [c] else ['\\', c])
    some (read.turn .double)

end Reader

/-- The words of a command line. None, if a quote is left open or a shell would do more than to part the words. -/
def readWords? (line : String) : Option (List String) := do
  let reader ← line.toList.foldlM Reader.step .start
  if reader.quoting = .bare then some (reader.allWords.map String.ofList) else none

end GrammarFlow.Shell
