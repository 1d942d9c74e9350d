import GrammarFlow.Grammar.Declarations
import GrammarFlow.Workflow.World

/-!
From the input to a checked grammar. What is wrong with a grammar is the checker's business; the
stage records its report.
-/

namespace GrammarFlow

structure Checker where
  check : Project → GrammarFindings
  /-- Whether the workflow is told to stop while the checker is at work. -/
  cancels : Bool

/-- The checker that finds declarations. -/
def Checker.declarations : Checker := ⟨Declarations.check, false⟩

namespace GrammarCheck

/-- The reported problems count as found in this stage. -/
def found (report : GrammarFindings) : List Diagnosis :=
  report.diagnoses.map fun diagnosis => { diagnosis with stage := .grammarChecked }

def artifacts (project : Project) (report : GrammarFindings) : GrammarChecked where
  grammarName := report.grammarName.getD project.name
  parserRules := report.parserRules
  lexerRules := report.lexerRules
  fragments := report.fragments

def run (checker : Checker) (input : StateAt .input) (world : World) :
    Except Interruption (StateAt .grammarChecked) × World :=
  if world.cancelled then (.error .cancelled, world)
  else
    let report := checker.check input.project
    let progress := (found report).foldl Progress.report
      (.start { world with cancelled := checker.cancels })
    (.ok (input.next (.grammarChecked (artifacts input.project report)) progress.outcome rfl),
      progress.world)

end GrammarCheck

end GrammarFlow
