import GrammarFlow.Diagnosis
import GrammarFlow.Transcript.Duration

/-!
What a running stage tells its observer: the results a generated parser prints, each under its
tag, and diagnoses as they come up. The observer may be absent or may have stopped listening; the
stage does not notice.
-/

namespace GrammarFlow

/-- The results of a parser run, by the word that begins their line. -/
inductive ResultTag where
  | lexerTime
  | parserTime
  | tokens
  | tree
deriving DecidableEq, Repr

namespace ResultTag

def all : List ResultTag := [lexerTime, parserTime, tokens, tree]

def name : ResultTag → String
  | lexerTime => "LexerTime"
  | parserTime => "ParserTime"
  | tokens => "Tokens"
  | tree => "Tree"

def ofName? (name : String) : Option ResultTag := all.find? (·.name = name)

end ResultTag

inductive Event where
  | lexerTime (duration : Duration)
  | parserTime (duration : Duration)
  | tokens (dump : String)
  | tree (dump : String)
  | diagnosis (diagnosis : Diagnosis)
deriving DecidableEq

namespace Event

/-- The tag of the line an event comes from; diagnoses have none. -/
def tag? : Event → Option ResultTag
  | lexerTime _ => some .lexerTime
  | parserTime _ => some .parserTime
  | tokens _ => some .tokens
  | tree _ => some .tree
  | diagnosis _ => none

def diagnosis? : Event → Option Diagnosis
  | diagnosis found => some found
  | _ => none

end Event

inductive Observer where
  | listening
  | absent
  | hungUp
deriving DecidableEq, Repr

/-- The events an observer has received, after one more was sent. -/
def Observer.notify (observer : Observer) (received : List Event) (event : Event) : List Event :=
  match observer with
  | .listening => received ++ [event]
  | .absent | .hungUp => received

end GrammarFlow
