/-!
The five stages of a workflow, in the order in which they are reached.
-/

namespace GrammarFlow

inductive Stage where
  | input
  | grammarChecked
  | parserGenerated
  | parserCompiled
  | textParsed
deriving DecidableEq, Repr, Inhabited

namespace Stage

def all : List Stage := [input, grammarChecked, parserGenerated, parserCompiled, textParsed]

/-- How many stages come before this one. -/
def rank : Stage → Nat
  | input => 0
  | grammarChecked => 1
  | parserGenerated => 2
  | parserCompiled => 3
  | textParsed => 4

instance : LT Stage := ⟨fun a b => a.rank < b.rank⟩
instance : LE Stage := ⟨fun a b => a.rank ≤ b.rank⟩
instance (a b : Stage) : Decidable (a < b) := inferInstanceAs (Decidable (a.rank < b.rank))
instance (a b : Stage) : Decidable (a ≤ b) := inferInstanceAs (Decidable (a.rank ≤ b.rank))

def next? : Stage → Option Stage
  | input => some grammarChecked
  | grammarChecked => some parserGenerated
  | parserGenerated => some parserCompiled
  | parserCompiled => some textParsed
  | textParsed => none

def name : Stage → String
  | input => "Input"
  | grammarChecked => "GrammarChecked"
  | parserGenerated => "ParserGenerated"
  | parserCompiled => "ParserCompiled"
  | textParsed => "TextParsed"

/-- The name a stage has on the command line. -/
def optionName : Stage → String
  | input => "input"
  | grammarChecked => "grammar-checked"
  | parserGenerated => "parser-generated"
  | parserCompiled => "parser-compiled"
  | textParsed => "text-parsed"

/-- Either of its two names selects a stage. -/
def ofName? (name : String) : Option Stage :=
  all.find? fun stage => stage.name = name || stage.optionName = name

def unknownMessage (name : String) : String := "Unknown workflow stage '" ++ name ++ "'"

end Stage

end GrammarFlow
