import GrammarFlow.Text.Utf8
import GrammarFlow.Text.Blank

/-!
The lines of a stream. A stream is cut behind every line feed, before its bytes are read as
characters, so that damage in one line stays there. The carriage returns and line feeds at the end
of a line are not part of it, and a last line needs no line feed.
-/

namespace GrammarFlow

/-- The two streams a program writes to. -/
inductive Stream where
  | out
  | err
deriving DecidableEq, Repr

/-- Cuts behind every element that ends a piece. -/
def splitBehind {α : Type} (ends : α → Bool) : List α → List (List α)
  | [] => []
  | a :: rest =>
    if ends a then [a] :: splitBehind ends rest
    else
      match splitBehind ends rest with
      | [] => [[a]]
      | piece :: pieces => (a :: piece) :: pieces

def trimLineEnd (line : List Char) : List Char :=
  Text.trimEndChars (fun c => c = '\r' || c = '\n') line

/-- The lines of the bytes that a program writes to a stream. -/
def outputLines (bytes : List UInt8) : List String :=
  (splitBehind (· = 0x0a) bytes).map fun piece =>
    String.ofList (trimLineEnd (Text.Utf8.decodeLossy piece))

end GrammarFlow
