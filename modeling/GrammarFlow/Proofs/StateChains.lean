import GrammarFlow.Workflow.State
import Mathlib.Data.List.Basic

/-!
Chains of states as they can be built. A chain starts from an input and grows by one state at a time; whether
anything has failed so far is settled when a state is made, and says of the state and all before it what each
of them records.
-/

namespace GrammarFlow

theorem anyError_eq_true_iff {diagnoses : List Diagnosis} :
    anyError diagnoses = true ↔ ∃ found ∈ diagnoses, found.severity = .error := by
  simp [anyError, Diagnosis.isError]

namespace State

inductive Built : State → Prop where
  | input (project : Project) : Built (.input project)
  | derive {previous : State} {artifacts : Artifacts} {outcome : Outcome} (built : Built previous)
      (follows : previous.stage.next? = some artifacts.stage) :
      Built (previous.derive artifacts outcome follows)

def FailedItself (state : State) : Prop :=
  state.exception ≠ none ∨ ∃ found ∈ state.diagnoses, found.severity = .error

theorem failedItself_iff {state : State} : state.FailedItself ↔ state.outcome.hasErrors = true := by
  rw [FailedItself, Outcome.hasErrors, Bool.or_eq_true, anyError_eq_true_iff, Option.isSome_iff_ne_none]
  rfl

theorem ancestors_eq (state : State) : state.ancestors = state :: state.ancestors.tail := by
  cases state <;> rfl

theorem mem_ancestors_self (state : State) : state ∈ state.ancestors := by
  rw [ancestors_eq]
  exact List.mem_cons_self

/-- The states before a state on its chain are the end of the chain. -/
theorem ancestors_suffix {node state : State} (earlier : node ∈ state.ancestors) :
    node.ancestors <:+ state.ancestors := by
  induction state with
  | input project =>
    obtain rfl := List.mem_singleton.1 earlier
    exact List.suffix_rfl
  | derived previous artifacts outcome failed ih =>
    obtain rfl | earlier := List.mem_cons.1 earlier
    · exact List.suffix_rfl
    · exact (ih earlier).trans (List.suffix_cons ..)

theorem Built.of_mem_ancestors {node state : State} (built : state.Built) (earlier : node ∈ state.ancestors) :
    node.Built := by
  induction built with
  | input project =>
    obtain rfl := List.mem_singleton.1 earlier
    exact .input project
  | derive built follows ih =>
    obtain rfl | earlier := List.mem_cons.1 earlier
    · exact built.derive follows
    · exact ih earlier

/-- The flag is computed from the state just before, and still tells of the whole chain. -/
theorem Built.hasErrors_iff {state : State} (built : state.Built) :
    state.hasErrors = true ↔ ∃ node ∈ state.ancestors, node.FailedItself := by
  induction built with
  | input project => simp [hasErrors, ancestors, FailedItself, exception, diagnoses, outcome, Outcome.empty]
  | @derive previous artifacts outcome built follows ih =>
    have here : (previous.derive artifacts outcome follows).FailedItself ↔ outcome.hasErrors = true :=
      failedItself_iff
    change (previous.hasErrors || outcome.hasErrors) = true ↔
      ∃ node ∈ previous.derive artifacts outcome follows :: previous.ancestors, node.FailedItself
    rw [Bool.or_eq_true, ih, List.exists_mem_cons_iff, here, or_comm]

theorem Built.hasErrors_mono {node state : State} (built : state.Built) (earlier : node ∈ state.ancestors)
    (failed : node.hasErrors = true) : state.hasErrors = true := by
  obtain ⟨first, before, itself⟩ := (built.of_mem_ancestors earlier).hasErrors_iff.1 failed
  exact built.hasErrors_iff.2 ⟨first, (ancestors_suffix earlier).subset before, itself⟩

/-- Of every state of a chain the flag says whether the state or one before it failed. Once it is set, all
later states have it, warnings do not set it, and a further state has the whole chain behind it as it was. -/
theorem flag_tells_of_chain {last : State} (built : last.Built) :
    (∀ node ∈ last.ancestors,
      (node.hasErrors = true ↔ ∃ earlier ∈ node.ancestors, earlier.FailedItself) ∧
      (node.hasErrors = true → last.hasErrors = true) ∧
      ((∀ earlier ∈ node.ancestors,
        earlier.exception = none ∧ ∀ found ∈ earlier.diagnoses, found.severity = .warning) →
          node.hasErrors = false)) ∧
    ∀ artifacts outcome (follows : last.stage.next? = some artifacts.stage),
      let next := last.derive artifacts outcome follows
      next.artifacts = artifacts ∧ next.outcome = outcome ∧ next.previous? = some last ∧
        next.ancestors = next :: last.ancestors ∧ (last.hasErrors = true → next.hasErrors = true) := by
  refine ⟨?nodes, ?further⟩
  case nodes =>
    intro node earlier
    have flag := (built.of_mem_ancestors earlier).hasErrors_iff
    refine ⟨flag, built.hasErrors_mono earlier, ?_⟩
    intro harmless
    rw [Bool.eq_false_iff]
    intro failed
    obtain ⟨first, before, exception | ⟨found, recorded, error⟩⟩ := flag.1 failed
    · exact exception (harmless first before).1
    · rw [(harmless first before).2 found recorded] at error
      cases error
  case further =>
    intro artifacts outcome follows next
    exact ⟨rfl, rfl, rfl, rfl,
      (built.derive follows).hasErrors_mono (List.mem_cons_of_mem _ last.mem_ancestors_self)⟩

/-- A warning leaves the flag alone, an exception without a diagnosis sets it, and it stays when the next
stage goes well. -/
theorem flag_of_exception :
    let note := Diagnosis.unlocated "note" .warning .grammarChecked
    let checked := (State.input ⟨"g", [], none⟩).derive (.grammarChecked default) ⟨[note], none, none⟩ rfl
    let generated := checked.derive (.parserGenerated default) ⟨[], some (.internal "fault"), none⟩ rfl
    let compiled := generated.derive (.parserCompiled default) .empty rfl
    compiled.Built ∧ checked.hasErrors = false ∧ generated.hasErrors = true ∧ compiled.hasErrors = true := by
  intro note checked generated compiled
  have built : compiled.Built := (((Built.input _).derive rfl).derive rfl).derive rfl
  obtain ⟨nodes, -⟩ := flag_tells_of_chain built
  obtain ⟨-, -, harmless⟩ := nodes checked (by simp [compiled, generated, derive, ancestors, mem_ancestors_self])
  obtain ⟨flag, sticky, -⟩ := nodes generated (by simp [compiled, derive, ancestors, mem_ancestors_self])
  have failed : generated.hasErrors = true :=
    flag.2 ⟨generated, generated.mem_ancestors_self, .inl (Option.some_ne_none _)⟩
  refine ⟨built, harmless ?_, failed, sticky failed⟩
  intro earlier before
  obtain rfl | rfl : earlier = checked ∨ earlier = .input ⟨"g", [], none⟩ := by
    simpa [checked, derive, ancestors] using before
  · exact ⟨rfl, by simp [checked, derive, diagnoses, outcome, note, Diagnosis.unlocated]⟩
  · exact ⟨rfl, fun _ absent => absurd absent List.not_mem_nil⟩

end State

end GrammarFlow
