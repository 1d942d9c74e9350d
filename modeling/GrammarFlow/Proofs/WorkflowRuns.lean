import GrammarFlow.Proofs.StageCourses
import GrammarFlow.Proofs.StageRecords
import Mathlib.Data.List.Chain

/-!
How a workflow goes from state to state. It goes on only from a state that is sound and before the end stage, so
nothing is run behind a failure or behind the end; and it starts nothing once it has been told to stop, at
whatever moment that is.
-/

namespace GrammarFlow

theorem Stage.rank_le (stage : Stage) : stage.rank ≤ Stage.textParsed.rank := by
  cases stage <;> decide

theorem Stage.rank_next {stage next : Stage} (follows : stage.next? = some next) :
    next.rank = stage.rank + 1 := by
  cases stage <;> cases follows <;> rfl

theorem Advanced.rank {previous next : State} {before after : World}
    (advanced : Advanced previous before next after) : next.stage.rank = previous.stage.rank + 1 := by
  obtain ⟨-, ⟨artifacts, outcome, follows, rfl⟩, -⟩ := advanced
  exact Stage.rank_next follows

namespace Workflow

def Pending (workflow : Workflow) (state : State) : Prop :=
  state.hasErrors = false ∧ state.stage < workflow.endStage

/-- The ways in which a workflow can go on from a state. It may also be told to stop between any two stages. -/
inductive Goes (workflow : Workflow) (system : System) :
    State → World → Except Interruption State → World → Prop where
  | stops {state : State} {world : World} (settled : ¬workflow.Pending state) :
      Goes workflow system state world (.ok state) world
  | stage {state next : State} {world between after : World} {result : Except Interruption State}
      (pending : workflow.Pending state) (made : workflow.step system state world = (.ok next, between))
      (rest : Goes workflow system next between result after) : Goes workflow system state world result after
  | interrupted {state : State} {world after : World} {reason : Interruption} (pending : workflow.Pending state)
      (stopped : workflow.step system state world = (.error reason, after)) :
      Goes workflow system state world (.error reason) after
  | told {state : State} {world after : World} {result : Except Interruption State}
      (rest : Goes workflow system state { world with cancelled := true } result after) :
      Goes workflow system state world result after

variable {workflow : Workflow} {system : System} {state start last : State} {world after : World}

theorem not_pending : ¬workflow.Pending state ↔ state.hasErrors = true ∨ workflow.endStage ≤ state.stage := by
  rw [Pending, not_and_or, Bool.not_eq_false]
  exact or_congr_right Nat.not_lt

theorem Pending.unfinished (pending : workflow.Pending state) : state.stage ≠ .textParsed := by
  intro finished
  have behind : state.stage.rank < workflow.endStage.rank := pending.2
  rw [finished] at behind
  exact absurd behind (Nat.not_lt.2 workflow.endStage.rank_le)

theorem ok_of_map {stage : Stage} {next : State} {ran : Except Interruption (StateAt stage) × World}
    (made : (ran.1.map StateAt.state, ran.2) = (.ok next, after)) :
    ∃ state : StateAt stage, ran = (.ok state, after) ∧ state.state = next := by
  obtain ⟨stopped | state, left⟩ := ran
  · cases made
  · cases made
    exact ⟨state, rfl, rfl⟩

theorem step_advanced {next : State} (unfinished : state.stage ≠ .textParsed)
    (made : workflow.step system state world = (.ok next, after)) : Advanced state world next after := by
  unfold step at made
  split at made
  next =>
    obtain ⟨_, ran, rfl⟩ := ok_of_map made
    exact GrammarCheck.run_advanced ran
  next =>
    obtain ⟨_, ran, rfl⟩ := ok_of_map made
    exact Generation.run_advanced ran
  next =>
    obtain ⟨_, ran, rfl⟩ := ok_of_map made
    exact Compilation.run_advanced ran
  next =>
    obtain ⟨_, ran, rfl⟩ := ok_of_map made
    exact TextParsing.run_advanced ran
  next finished => exact absurd finished unfinished

/-- As many steps as there are stages left are enough, so the loop ends because nothing is pending. -/
theorem goes_advance {steps : Nat} (enough : Stage.textParsed.rank ≤ start.stage.rank + steps) :
    workflow.Goes system start world (workflow.advance system steps start world).1
      (workflow.advance system steps start world).2 := by
  induction steps generalizing start world with
  | zero =>
    refine .stops (not_pending.2 (.inr ?_))
    exact Nat.le_trans workflow.endStage.rank_le enough
  | succ steps ih =>
    unfold advance
    split
    next pending =>
      cases made : workflow.step system start world with
      | mk result between =>
        cases result with
        | error reason => exact .interrupted pending made
        | ok next =>
          have further := (step_advanced (Pending.unfinished pending) made).rank
          exact .stage pending made (ih (by omega))
    next settled => exact .stops settled

theorem goes_resume (workflow : Workflow) (system : System) (start : State) (world : World) :
    workflow.Goes system start world (workflow.resume system start world).1
      (workflow.resume system start world).2 :=
  goes_advance (Nat.le_add_left ..)

/-- The states that were passed between a start and a last state: the latest first, the last one left out. -/
structure Passes (workflow : Workflow) (start last : State) (passed : List State) : Prop where
  kept : last.ancestors = last :: passed ++ start.ancestors.tail
  begins : (last :: passed).getLast? = some start
  consecutive : (last :: passed).IsChain fun later earlier => earlier.stage.next? = some later.stage
  pending : ∀ state ∈ passed, workflow.Pending state

theorem Passes.none (workflow : Workflow) (state : State) : workflow.Passes state state [] where
  kept := state.ancestors_eq
  begins := rfl
  consecutive := .singleton _
  pending _ absent := absurd absent List.not_mem_nil

theorem Passes.before {next : State} {passed : List State} {before : World} (passes : workflow.Passes next last passed)
    (pending : workflow.Pending start) (made : Advanced start before next after) :
    workflow.Passes start last (passed ++ [start]) := by
  obtain ⟨-, ⟨artifacts, outcome, follows, rfl⟩, -⟩ := made
  refine ⟨?kept, ?begins, ?consecutive, ?pending⟩
  case kept =>
    rw [passes.kept]
    change last :: passed ++ start.ancestors = _
    rw [start.ancestors_eq]
    simp
  case begins => rw [← List.cons_append, List.getLast?_concat]
  case consecutive =>
    rw [← List.cons_append, List.isChain_append]
    refine ⟨passes.consecutive, .singleton _, ?_⟩
    rw [passes.begins]
    rintro _ ⟨⟩ _ ⟨⟩
    exact follows
  case pending =>
    intro state among
    obtain among | same := List.mem_append.1 among
    · exact passes.pending state among
    · rwa [List.mem_singleton.1 same]

/-- What holds of the last state, and of a state whenever it holds of the one that is made from it, holds of the
start of a way to a last state. -/
theorem Goes.ok_induction {motive : State → World → Prop} (stops : ¬workflow.Pending last → motive last after)
    (stage : ∀ {state next : State} {before between : World}, workflow.Pending state →
      Advanced state before next between → motive next between → motive state before)
    (told : ∀ {state : State} {before : World}, motive state { before with cancelled := true } → motive state before)
    (goes : workflow.Goes system start world (.ok last) after) : motive start world := by
  generalize ended : Except.ok last = result at goes
  induction goes with
  | stops settled =>
    cases ended
    exact stops settled
  | stage pending made rest ih => exact stage pending (step_advanced pending.unfinished made) (ih stops ended)
  | interrupted => cases ended
  | told rest ih => exact told (ih stops ended)

theorem Goes.passes (goes : workflow.Goes system start world (.ok last) after) :
    ∃ passed, workflow.Passes start last passed ∧ ¬workflow.Pending last := by
  refine goes.ok_induction (motive := fun state _ => ∃ passed, workflow.Passes state last passed ∧
    ¬workflow.Pending last) ?stops ?stage id
  case stops => exact fun settled => ⟨[], .none workflow last, settled⟩
  case stage =>
    rintro state next before between pending made ⟨passed, passes, settled⟩
    exact ⟨_, passes.before pending made, settled⟩

end Workflow

end GrammarFlow
