import GrammarFlow.Grammar.Project
import GrammarFlow.Grammar.RuleTable
import GrammarFlow.Marks.Marked
import GrammarFlow.Diagnosis
import GrammarFlow.Transcript.Duration

/-!
What each stage of a workflow makes. The first stage makes nothing: it is the project itself.
-/

namespace GrammarFlow

structure GrammarChecked where
  grammarName : String
  parserRules : List String
  lexerRules : List String
  /-- The actions in the grammar's rules, sorted within each source. -/
  fragments : List Span
deriving DecidableEq, Inhabited

structure ParserGenerated where
  target : String
  directory : String
  generatedFiles : List String
  markedSources : List MarkedSource
deriving DecidableEq, Repr, Inhabited

structure ParserCompiled where
  target : String
  directory : String
  rules : RuleTable
  entryPoint : Option String
deriving DecidableEq, Inhabited

structure TextParsed where
  text : Option Source
  root : Option String
  lexerTime : Option Duration
  parserTime : Option Duration
  tokens : Option String
  tree : Option String
deriving DecidableEq, Repr, Inhabited

inductive Artifacts where
  | input (project : Project)
  | grammarChecked (checked : GrammarChecked)
  | parserGenerated (generated : ParserGenerated)
  | parserCompiled (compiled : ParserCompiled)
  | textParsed (parsed : TextParsed)
deriving DecidableEq

def Artifacts.stage : Artifacts → Stage
  | input _ => .input
  | grammarChecked _ => .grammarChecked
  | parserGenerated _ => .parserGenerated
  | parserCompiled _ => .parserCompiled
  | textParsed _ => .textParsed

end GrammarFlow
