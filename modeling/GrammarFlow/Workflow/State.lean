import GrammarFlow.Workflow.Artifacts

/-!
The states of a workflow form a chain: each holds what its stage made, what went wrong on the way,
and the state it was made from. Whether anything has gone wrong so far is settled when a state is
made, so later states cannot lose it.
-/

namespace GrammarFlow

/-- How a stage went. -/
structure Outcome where
  diagnoses : List Diagnosis
  exception : Option StageFailure
  /-- The command line of the tool that was started. -/
  command : Option String
deriving DecidableEq

namespace Outcome

def empty : Outcome := ⟨[], none, none⟩

instance : Inhabited Outcome := ⟨empty⟩

def push (outcome : Outcome) (diagnosis : Diagnosis) : Outcome :=
  { outcome with diagnoses := outcome.diagnoses ++ [diagnosis] }

/-- Records that the stage could not do its work. -/
def fail (outcome : Outcome) (stage : Stage) (error : StageFailure) (kind : DiagnosisKind) :
    Outcome :=
  { outcome.push { Diagnosis.error error.message stage with kind } with exception := some error }

def hasErrors (outcome : Outcome) : Bool :=
  outcome.exception.isSome || anyError outcome.diagnoses

end Outcome

inductive State where
  | input (project : Project)
  | derived (previous : State) (artifacts : Artifacts) (outcome : Outcome) (failed : Bool)
deriving DecidableEq

namespace State

def artifacts : State → Artifacts
  | input project => .input project
  | derived _ artifacts _ _ => artifacts

def stage (state : State) : Stage := state.artifacts.stage

def previous? : State → Option State
  | input _ => none
  | derived previous _ _ _ => some previous

def outcome : State → Outcome
  | input _ => .empty
  | derived _ _ outcome _ => outcome

def diagnoses (state : State) : List Diagnosis := state.outcome.diagnoses

def exception (state : State) : Option StageFailure := state.outcome.exception

def command (state : State) : Option String := state.outcome.command

/-- Whether this state or one before it failed. -/
def hasErrors : State → Bool
  | input _ => false
  | derived _ _ _ failed => failed

/-- The state of the next stage. -/
def derive (previous : State) (artifacts : Artifacts) (outcome : Outcome)
    (_follows : previous.stage.next? = some artifacts.stage) : State :=
  derived previous artifacts outcome (previous.hasErrors || outcome.hasErrors)

/-- The state and those it was made from, latest first. -/
def ancestors : State → List State
  | input project => [input project]
  | derived previous artifacts outcome failed =>
    derived previous artifacts outcome failed :: previous.ancestors

/-- The latest artifacts of a stage. -/
def artifactsOf? (state : State) (stage : Stage) : Option Artifacts :=
  state.ancestors.findSome? fun ancestor =>
    if ancestor.stage = stage then some ancestor.artifacts else none

/-- The latest state of a stage. -/
def rollback? (stage : Stage) : State → Option State
  | input project => if stage = .input then some (input project) else none
  | derived previous artifacts outcome failed =>
    if artifacts.stage = stage then some (derived previous artifacts outcome failed)
    else previous.rollback? stage

/-- The diagnoses of a state and all before it, oldest first. -/
def allDiagnoses (state : State) : List Diagnosis :=
  state.ancestors.reverse.flatMap State.diagnoses

def project? (state : State) : Option Project :=
  match state.artifactsOf? .input with
  | some (.input project) => some project
  | _ => none

def checked? (state : State) : Option GrammarChecked :=
  match state.artifactsOf? .grammarChecked with
  | some (.grammarChecked checked) => some checked
  | _ => none

end State

/-- A state that is known to be of a stage. -/
structure StateAt (stage : Stage) where
  state : State
  atStage : state.stage = stage

namespace StateAt

def ofState? (stage : Stage) (state : State) : Option (StateAt stage) :=
  if atStage : state.stage = stage then some ⟨state, atStage⟩ else none

/-- The latest state of a stage, as such. -/
def find? (stage : Stage) : State → Option (StateAt stage)
  | .input project => ofState? stage (.input project)
  | .derived previous artifacts outcome failed =>
    (ofState? stage (.derived previous artifacts outcome failed)).or (find? stage previous)

/-- The state of the next stage. -/
def next {stage : Stage} (previous : StateAt stage) (artifacts : Artifacts) (outcome : Outcome)
    (follows : stage.next? = some artifacts.stage) : StateAt artifacts.stage :=
  ⟨previous.state.derive artifacts outcome (by rw [previous.atStage]; exact follows), rfl⟩

def describe {stage : Stage} (found : StateAt stage) : String :=
  "StateRef(" ++ found.state.stage.name ++ ")"

def project (input : StateAt .input) : Project :=
  match input with
  | ⟨state, atStage⟩ =>
    match here : state.artifacts with
    | .input project => project
    | .grammarChecked _ | .parserGenerated _ | .parserCompiled _ | .textParsed _ => by
      simp [State.stage, here, Artifacts.stage] at atStage

def checked (grammar : StateAt .grammarChecked) : GrammarChecked :=
  match grammar with
  | ⟨state, atStage⟩ =>
    match here : state.artifacts with
    | .grammarChecked checked => checked
    | .input _ | .parserGenerated _ | .parserCompiled _ | .textParsed _ => by
      simp [State.stage, here, Artifacts.stage] at atStage

def generated (parser : StateAt .parserGenerated) : ParserGenerated :=
  match parser with
  | ⟨state, atStage⟩ =>
    match here : state.artifacts with
    | .parserGenerated generated => generated
    | .input _ | .grammarChecked _ | .parserCompiled _ | .textParsed _ => by
      simp [State.stage, here, Artifacts.stage] at atStage

def compiled (parser : StateAt .parserCompiled) : ParserCompiled :=
  match parser with
  | ⟨state, atStage⟩ =>
    match here : state.artifacts with
    | .parserCompiled compiled => compiled
    | .input _ | .grammarChecked _ | .parserGenerated _ | .textParsed _ => by
      simp [State.stage, here, Artifacts.stage] at atStage

end StateAt

end GrammarFlow
