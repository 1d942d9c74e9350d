import GrammarFlow.Proofs.StateChains

/-!
Looking up a stage in a chain of states. The handles to states let a chain grow by the next stage only, so each
stage up to the last one has one state there. Whatever is asked for a stage, its artifacts, a handle or the state
to go back to, the answer comes from that state.
-/

namespace GrammarFlow

namespace Stage

def upTo (last : Stage) : List Stage := all.filter (· ≤ last)

theorem mem_upTo {stage last : Stage} : stage ∈ last.upTo ↔ stage ≤ last := by
  have known : stage ∈ all := by cases stage <;> decide
  rw [upTo, List.mem_filter, decide_eq_true_iff, and_iff_right known]

theorem upTo_next {stage next : Stage} (follows : stage.next? = some next) : next.upTo = stage.upTo ++ [next] := by
  cases stage <;> cases follows <;> decide

theorem upTo_sorted (last : Stage) : last.upTo.Pairwise (· < ·) := by
  cases last <;> decide

end Stage

namespace State

def latest? (state : State) (stage : Stage) : Option State :=
  state.ancestors.find? fun node => decide (node.stage = stage)

variable {state node : State} {stage : Stage}

theorem latest?_eq (state : State) (stage : Stage) : state.latest? stage =
    if state.stage = stage then some state else state.previous?.bind fun previous => previous.latest? stage := by
  have first : state.ancestors.tail = (state.previous?.map ancestors).getD [] := by cases state <;> rfl
  rw [latest?, ancestors_eq, List.find?_cons]
  by_cases here : state.stage = stage
  · rw [if_pos here, decide_eq_true here]
  · rw [if_neg here, decide_eq_false here, first]
    cases state.previous? <;> rfl

theorem rollback?_eq (state : State) (stage : Stage) : state.rollback? stage = state.latest? stage := by
  induction state with
  | input project =>
    rw [latest?_eq, rollback?]
    exact if_congr eq_comm rfl rfl
  | derived previous artifacts outcome failed ih =>
    rw [latest?_eq, rollback?, ih]
    rfl

theorem artifactsOf?_eq (state : State) (stage : Stage) :
    state.artifactsOf? stage = (state.latest? stage).map artifacts := by
  rw [artifactsOf?, latest?]
  induction state.ancestors with
  | nil => rfl
  | cons node nodes ih =>
    rw [List.findSome?_cons, List.find?_cons]
    by_cases asked : node.stage = stage
    · rw [if_pos asked, decide_eq_true asked, Option.map_some]
    · rw [if_neg asked, decide_eq_false asked, ih]

theorem latest?_some (found : state.latest? stage = some node) : node ∈ state.ancestors ∧ node.stage = stage := by
  rw [latest?] at found
  exact ⟨List.mem_of_find?_eq_some found, by simpa using List.find?_some found⟩

theorem mem_ancestors_of_rollback? (back : state.rollback? stage = some node) : node ∈ state.ancestors := by
  rw [rollback?_eq] at back
  exact (latest?_some back).1

theorem latest?_stage (state : State) : state.latest? state.stage = some state := by
  rw [latest?_eq, if_pos rfl]

theorem Built.stages (built : state.Built) : state.ancestors.map State.stage = state.stage.upTo.reverse := by
  induction built with
  | input project => rfl
  | @derive previous artifacts outcome built follows ih =>
    have here : (previous.derive artifacts outcome follows).stage = artifacts.stage := rfl
    rw [here, Stage.upTo_next follows, List.reverse_append, ← ih]
    rfl

theorem Built.descending (built : state.Built) : state.ancestors.Pairwise fun later earlier =>
    earlier.stage < later.stage := by
  have sorted := List.pairwise_reverse.2 state.stage.upTo_sorted
  rwa [← built.stages, List.pairwise_map] at sorted

/-- A state on a chain is the only one of its stage, with later stages in front of it and its own chain as the
rest. -/
theorem Built.latest?_of_mem (built : state.Built) (among : node ∈ state.ancestors) :
    state.latest? node.stage = some node ∧
      ∃ later, state.ancestors = later ++ node.ancestors ∧ ∀ other ∈ later, node.stage < other.stage := by
  obtain ⟨later, parts⟩ := ancestors_suffix among
  have descending := built.descending
  rw [← parts, List.pairwise_append] at descending
  have behind : ∀ other ∈ later, node.stage < other.stage := fun other member =>
    descending.2.2 other member node node.mem_ancestors_self
  refine ⟨?_, later, parts.symm, behind⟩
  have passed : (later.find? fun other => decide (other.stage = node.stage)) = none := by
    rw [List.find?_eq_none]
    intro other member same
    have apart := behind other member
    rw [of_decide_eq_true same] at apart
    exact absurd apart (Nat.lt_irrefl _)
  rw [latest?, ← parts, List.find?_append, passed, Option.none_or]
  exact node.latest?_stage

theorem Built.latest?_isSome (built : state.Built) (stage : Stage) :
    (state.latest? stage).isSome = true ↔ stage ≤ state.stage := by
  have reached : stage ∈ state.ancestors.map State.stage ↔ stage ≤ state.stage := by
    rw [built.stages, List.mem_reverse, Stage.mem_upTo]
  rw [← reached, latest?, List.find?_isSome, List.mem_map]
  simp only [decide_eq_true_iff]

/-- The diagnoses of a chain stage by stage, from the first stage on. -/
theorem Built.allDiagnoses_eq (built : state.Built) : state.allDiagnoses =
    state.stage.upTo.flatMap fun stage => ((state.latest? stage).map diagnoses).getD [] := by
  have stages : state.stage.upTo = state.ancestors.reverse.map State.stage := by
    rw [List.map_reverse, built.stages, List.reverse_reverse]
  rw [stages, List.flatMap_map, allDiagnoses]
  refine List.flatMap_congr ?_
  intro node among
  rw [(built.latest?_of_mem (List.mem_reverse.1 among)).1]
  rfl

end State

namespace StateAt

theorem ofState?_state (stage : Stage) (state : State) :
    (ofState? stage state).map StateAt.state = if state.stage = stage then some state else none := by
  rw [ofState?]
  split <;> rfl

theorem find?_state (stage : Stage) (state : State) : (find? stage state).map StateAt.state = state.latest? stage := by
  induction state with
  | input project =>
    rw [State.latest?_eq, find?, ofState?_state]
    rfl
  | derived previous artifacts outcome failed ih =>
    rw [State.latest?_eq, find?, Option.map_or, ofState?_state, ih]
    split <;> rfl

/-- The handles that can be come by: to an input, to a next state, and to a state of a chain that has the stage
of the handle. -/
inductive Held : {stage : Stage} → StateAt stage → Prop where
  | input (project : Project) : Held (⟨.input project, rfl⟩ : StateAt .input)
  | next {stage : Stage} {previous : StateAt stage} {artifacts : Artifacts} {outcome : Outcome} (held : Held previous)
      (follows : stage.next? = some artifacts.stage) : Held (previous.next artifacts outcome follows)
  | found {last stage : Stage} {handle : StateAt last} {node : State} {again : StateAt stage} (held : Held handle)
      (earlier : node ∈ handle.state.ancestors) (found : find? stage node = some again) : Held again
  | known {last stage : Stage} {handle : StateAt last} {node : State} {again : StateAt stage} (held : Held handle)
      (earlier : node ∈ handle.state.ancestors) (known : ofState? stage node = some again) : Held again

theorem Held.built {stage : Stage} {handle : StateAt stage} (held : handle.Held) : handle.state.Built := by
  induction held with
  | input project => exact .input project
  | @next stage previous artifacts outcome held follows ih => exact ih.derive (by rw [previous.atStage]; exact follows)
  | @found last stage handle node again held earlier found ih =>
    have there : node.latest? stage = some again.state := by rw [← find?_state, found, Option.map_some]
    exact (ih.of_mem_ancestors earlier).of_mem_ancestors (State.latest?_some there).1
  | @known last stage handle node again held earlier known ih =>
    have there := ofState?_state stage node
    rw [known, Option.map_some] at there
    split at there
    next => cases there; exact ih.of_mem_ancestors earlier
    next => cases there

/-- On a chain that was built through handles every state has its own stage and all before it behind it, each
once. Artifacts, handle and state of a stage are found from a state exactly if its own stage is not before that
one. They are of one state, the only one of the stage, and the chain of that state is the end of the chain looked
through. The diagnoses of all stages follow each other from the first stage on. -/
theorem Held.lookups_agree {last : Stage} {handle : StateAt last} (held : handle.Held) {state : State}
    (earlier : state ∈ handle.state.ancestors) :
    state.ancestors.map State.stage = state.stage.upTo.reverse ∧
    (∀ stage,
      ((state.artifactsOf? stage).isSome = true ↔ stage ≤ state.stage) ∧
      ((find? stage state).isSome = true ↔ stage ≤ state.stage) ∧
      ((state.rollback? stage).isSome = true ↔ stage ≤ state.stage) ∧
      (stage ≤ state.stage → ∃ found : StateAt stage,
        state.artifactsOf? stage = some found.state.artifacts ∧ find? stage state = some found ∧
        state.rollback? stage = some found.state ∧
        (∀ node ∈ state.ancestors, node.stage = stage → node = found.state) ∧
        ∃ later, state.ancestors = later ++ found.state.ancestors ∧ ∀ node ∈ later, stage < node.stage)) ∧
    state.allDiagnoses = state.stage.upTo.flatMap fun stage =>
      ((state.rollback? stage).map State.diagnoses).getD [] := by
  have built := held.built.of_mem_ancestors earlier
  simp only [State.rollback?_eq]
  refine ⟨built.stages, ?lookups, built.allDiagnoses_eq⟩
  case lookups =>
    intro stage
    have reached := built.latest?_isSome stage
    have artifacts := state.artifactsOf?_eq stage
    have handles := find?_state stage state
    refine ⟨by rw [artifacts, Option.isSome_map, reached], by rw [← reached, ← handles, Option.isSome_map], reached, ?_⟩
    intro before
    obtain ⟨node, there⟩ := Option.isSome_iff_exists.1 (reached.2 before)
    rw [there] at artifacts handles
    obtain ⟨found, same, rfl⟩ := Option.map_eq_some_iff.1 handles
    obtain ⟨-, later, parts, behind⟩ := built.latest?_of_mem (State.latest?_some there).1
    refine ⟨found, artifacts, same, there, ?_, later, parts, found.atStage ▸ behind⟩
    intro node among asked
    have only := (built.latest?_of_mem among).1
    rw [asked, there] at only
    exact (Option.some.inj only).symm

/-- A parser is generated a second time, from the handle to the checked grammar that the first attempt leads back
to. The second attempt is not on the chain of the first, and no later stage is found from the checked grammar. -/
theorem lookups_from_second_attempt :
    let input : StateAt .input := ⟨.input ⟨"g", [], none⟩, rfl⟩
    let note := Diagnosis.unlocated "note" .warning .grammarChecked
    let fault := Diagnosis.error "fault" .parserGenerated
    let checked := input.next (.grammarChecked default) ⟨[note], none, none⟩ rfl
    let first := checked.next (.parserGenerated default) ⟨[fault], none, none⟩ rfl
    ∃ again, find? .grammarChecked first.state = some again ∧
      let second := again.next (.parserGenerated default) .empty rfl
      second.Held ∧ again.state ∈ second.state.ancestors ∧
        second.state.ancestors.map State.stage = [.parserGenerated, .grammarChecked, .input] ∧
        second.state.rollback? .input = some input.state ∧ second.state.allDiagnoses = [note] ∧
        again.state.rollback? .parserGenerated = none := by
  intro input note fault checked first
  have back : find? .grammarChecked first.state = some checked := rfl
  refine ⟨checked, back, ?_⟩
  intro second
  have held : second.Held := .next (.found (.next (.next (.input _) rfl) rfl) first.state.mem_ancestors_self back) rfl
  have among : checked.state ∈ second.state.ancestors := List.mem_cons_of_mem _ checked.state.mem_ancestors_self
  obtain ⟨stages, lookups, diagnoses⟩ := held.lookups_agree second.state.mem_ancestors_self
  obtain ⟨-, -, -, found⟩ := lookups .input
  obtain ⟨root, -, -, rolledBack, only, -⟩ := found (by decide)
  have begun : input.state ∈ second.state.ancestors :=
    List.mem_cons_of_mem _ (List.mem_cons_of_mem _ input.state.mem_ancestors_self)
  rw [← only input.state begun rfl] at rolledBack
  obtain ⟨-, later, -⟩ := held.lookups_agree among
  obtain ⟨-, -, unreached, -⟩ := later .parserGenerated
  refine ⟨held, among, stages, rolledBack, diagnoses, ?_⟩
  rw [← Option.not_isSome_iff_eq_none, unreached]
  decide

end StateAt

end GrammarFlow
