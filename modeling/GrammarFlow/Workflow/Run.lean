import GrammarFlow.Workflow.Compilation
import GrammarFlow.Workflow.Generation
import GrammarFlow.Workflow.GrammarCheck
import GrammarFlow.Workflow.TextParsing

/-!
A workflow takes a project from stage to stage until it has reached its end stage or a stage has
failed. It can be taken up again from any state of an earlier run.
-/

namespace GrammarFlow

structure Workflow where
  project : Project
  target : Target
  workspace : Workspace
  generator : Generator
  checker : Checker
  parameters : TextParsing.Parameters
  endStage : Stage

namespace Workflow

/-- A workflow with the usual settings that goes to the last stage. -/
def usual (project : Project) (target : Target) : Workflow :=
  ⟨project, target, default, default, .declarations, default, .textParsed⟩

/-- Makes the state of the next stage. The last stage has none. -/
def step (workflow : Workflow) (system : System) (state : State) (world : World) :
    Except Interruption State × World :=
  match here : state.stage with
  | .input =>
    let (result, world) := GrammarCheck.run workflow.checker ⟨state, here⟩ world
    (result.map StateAt.state, world)
  | .grammarChecked =>
    let request : Generation.Request := ⟨workflow.target, workflow.generator, workflow.workspace⟩
    let (result, world) := Generation.run system request ⟨state, here⟩ world
    (result.map StateAt.state, world)
  | .parserGenerated =>
    let request : Compilation.Request := ⟨workflow.target, workflow.workspace⟩
    let (result, world) := Compilation.run system request ⟨state, here⟩ world
    (result.map StateAt.state, world)
  | .parserCompiled =>
    let request : TextParsing.Request :=
      ⟨workflow.target, workflow.workspace, workflow.parameters⟩
    let (result, world) := TextParsing.run system request ⟨state, here⟩ world
    (result.map StateAt.state, world)
  | .textParsed => (.ok state, world)

/-- Steps until a stage fails or the end stage is reached, so often at most. -/
def advance (workflow : Workflow) (system : System) :
    Nat → State → World → Except Interruption State × World
  | 0, state, world => (.ok state, world)
  | steps + 1, state, world =>
    if state.hasErrors = false ∧ state.stage < workflow.endStage then
      match workflow.step system state world with
      | (.ok next, world) => workflow.advance system steps next world
      | (.error stopped, world) => (.error stopped, world)
    else (.ok state, world)

/-- Goes on from a state. No stage has more than four stages behind it. -/
def resume (workflow : Workflow) (system : System) (state : State) (world : World) :
    Except Interruption State × World :=
  workflow.advance system 4 state world

/-- Starts from the project. -/
def run (workflow : Workflow) (system : System) (world : World) :
    Except Interruption State × World :=
  workflow.resume system (.input workflow.project) world

end Workflow

end GrammarFlow
