/-!
Command lines for a shell. Each word is cut into chunks, and each chunk is written in the plainest
style that allows all its characters: bare, between single quotes, or between double quotes. A
shell reads the words back as they were.
-/

namespace GrammarFlow.Shell

/-- The styles in which the characters of a chunk so far can be written. -/
structure Styles where
  bare : Bool
  single : Bool
  double : Bool
deriving DecidableEq, Repr

def isBare (c : Char) : Bool :=
  c.isAlphanum || c ∈ ['+', '-', '.', '/', ':', '@', ']', '_']

/-- A caret is never quoted with other characters before it. -/
def isSingle (c : Char) : Bool := c ≠ '\'' && c ≠ '^' && c ≠ '\\'

def isDouble (c : Char) : Bool := c ≠ '\x60' && c ≠ '$' && c ≠ '!' && c ≠ '^'

namespace Styles

def all : Styles := ⟨true, true, true⟩

def keep (styles : Styles) (c : Char) : Styles :=
  ⟨styles.bare && isBare c, styles.single && isSingle c, styles.double && isDouble c⟩

def isNone (styles : Styles) : Bool := !styles.bare && !styles.single && !styles.double

/-- The styles of a chunk that begins with this character. -/
def start (c : Char) : Styles := if c = '^' then ⟨false, true, false⟩ else all.keep c

def write (styles : Styles) (chunk : List Char) : List Char :=
  if styles.bare then chunk
  else if styles.single then '\'' :: chunk ++ ['\'']
  else
    let escaped := chunk.flatMap fun c => if c = '"' || c = '\\' then ['\\', c] else [c]
    '"' :: escaped ++ ['"']

end Styles

/-- The characters that can still go into a chunk, its styles then, and the rest. -/
def takeChunk (styles : Styles) : List Char → List Char × Styles × List Char
  | [] => ([], styles, [])
  | c :: rest =>
    let kept := styles.keep c
    if kept.isNone then ([], styles, c :: rest)
    else
      let (chunk, final, behind) := takeChunk kept rest
      (c :: chunk, final, behind)

theorem length_takeChunk (styles : Styles) (text : List Char) :
    (takeChunk styles text).2.2.length ≤ text.length := by
  induction text generalizing styles with
  | nil => simp [takeChunk]
  | cons c rest ih =>
    simp only [takeChunk]
    split
    · simp
    · exact Nat.le_succ_of_le (ih _)

def quoteChunks : List Char → List Char
  | [] => []
  | c :: rest =>
    let taken := takeChunk (Styles.start c) rest
    taken.2.1.write (c :: taken.1) ++ quoteChunks taken.2.2
termination_by word => word.length
decreasing_by exact Nat.lt_succ_of_le (length_takeChunk _ _)

def quoteWord (word : String) : String :=
  if word.isEmpty then "''" else String.ofList (quoteChunks word.toList)

/-- The words with a space between each two. No quoting can hide a NUL, so words with one are
written as they are. -/
def joinWords (words : List String) : String :=
  if words.any fun word => '\x00' ∈ word.toList then " ".intercalate words
  else " ".intercalate (words.map quoteWord)

end GrammarFlow.Shell
