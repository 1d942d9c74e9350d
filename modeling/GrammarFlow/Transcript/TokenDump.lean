import GrammarFlow.Text.Blank
import GrammarFlow.Text.Case
import GrammarFlow.Transcript.ErrorSpan

/-!
The one-line dump of a token list: names in order, each followed by its text in parentheses where
that says more than the name, and `EOF` at the end. Long texts are cut. Reading takes a text to end
at the first closing parenthesis that is followed by a space.
-/

namespace GrammarFlow

structure TokenEntry where
  name : String
  text : Option String
deriving DecidableEq, Repr

namespace TokenDump

/-- Longer texts are cut and end in three dots. -/
def longestText : Nat := 8

def withoutBreaks (text : List Char) : List Char := text.filter fun c => c ≠ '\r' && c ≠ '\n'

/-- The text of a token as the dump shows it. -/
def shownText (text : List Char) : List Char :=
  let text := withoutBreaks text
  if text.length ≤ longestText then text else text.take longestText ++ ['.', '.', '.']

/-- Whether a token's text is its name but for case. -/
def isNamesake (name : String) (text : List Char) : Bool :=
  Text.lowercase (String.ofList (withoutBreaks text)) = Text.lowercase name

/-- One entry with the space behind it. -/
def entry (name text : String) : String :=
  if isNamesake name text.toList then name ++ " "
  else name ++ "(" ++ String.ofList (shownText text.toList) ++ ") "

/-- A dump in the making. -/
structure Builder where
  written : String
deriving DecidableEq, Repr

def Builder.start : Builder := ⟨""⟩

def Builder.push (dump : Builder) (name text : String) : Builder :=
  ⟨dump.written ++ entry name text⟩

def Builder.finish (dump : Builder) : String := dump.written ++ "EOF"

def render (tokens : List (String × String)) : String :=
  (tokens.foldl (fun dump (name, text) => dump.push name text) Builder.start).finish

def isNameChar (c : Char) : Bool := c ≠ ' ' && c ≠ '('

/-- Reads an entry: its name, its text if it has one, and the rest behind the spaces. -/
def readEntry (dump : List Char) : TokenEntry × List Char :=
  let name := String.ofList (dump.takeWhile isNameChar)
  match dump.dropWhile isNameChar with
  | '(' :: inner =>
    match Clue.before? [')', ' '] inner with
    | some text =>
      (⟨name, some (String.ofList text)⟩, (inner.drop (text.length + 1)).dropWhile (· = ' '))
    | none =>
      let text := if inner.getLast? = some ')' then inner.dropLast else inner
      (⟨name, some (String.ofList text)⟩, [])
  | rest => (⟨name, none⟩, rest.dropWhile (· = ' '))

theorem length_readEntry {dump : List Char} (present : dump ≠ []) :
    (readEntry dump).2.length < dump.length := by
  have total := congrArg List.length (List.takeWhile_append_dropWhile (p := isNameChar) (l := dump))
  have positive := List.length_pos_iff.mpr present
  rw [List.length_append] at total
  unfold readEntry
  split
  · rename_i inner behind
    rw [behind, List.length_cons] at total
    split
    · rename_i text _
      have := ((inner.drop (text.length + 1)).dropWhile_sublist (· = ' ')).length_le
      rw [List.length_drop] at this
      simp only
      omega
    · simpa using positive
  · rename_i notParen
    cases behind : dump.dropWhile isNameChar with
    | nil => simpa using positive
    | cons c rest =>
      have stopped := List.head?_dropWhile_not isNameChar dump
      have shorter := (rest.dropWhile_sublist (· = ' ')).length_le
      rw [behind] at total stopped
      have space : c = ' ' := by
        simp only [List.head?_cons, isNameChar, Bool.and_eq_false_iff, decide_eq_false_iff_not,
          Decidable.not_not] at stopped
        exact stopped.resolve_right fun paren => notParen rest (by rw [behind, paren])
      subst space
      simp only [List.length_cons] at total
      simp only [List.dropWhile_cons, decide_true, if_true]
      omega

def readEntries (dump : List Char) : List TokenEntry :=
  if _present : dump = [] then []
  else
    let next := readEntry dump
    if next.1 = ⟨"EOF", none⟩ ∧ next.2 = [] then [] else next.1 :: readEntries next.2
termination_by dump.length
decreasing_by exact length_readEntry _present

/-- Reads a dump back; the `EOF` that closes it is no token. -/
def read (payload : String) : List TokenEntry :=
  readEntries (Text.trimEndChars Text.isBlank payload.toList)

end TokenDump

end GrammarFlow
