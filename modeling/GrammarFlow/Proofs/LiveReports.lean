import GrammarFlow.CommandLine.Session
import GrammarFlow.Proofs.WorkflowRuns

/-!
Every diagnosis reaches the user once. What an observer is told while a stage is at work is what the stage
records, in the same order; the failures of which it is not told are those that the summary of a session lists.
-/

namespace GrammarFlow

/-- What came up live between two worlds is what a state holds, but for the diagnosis of its exception. -/
def State.ToldLive (state : State) (before after : World) : Prop :=
  ∃ events, after.events = before.events ++ events ∧ state.ToldBy (events.filterMap Event.diagnosis?)

theorem Advanced.toldLive {previous next : State} {before after : World}
    (advanced : Advanced previous before next after) (listens : before.observer = .listening) :
    next.ToldLive before after := by
  obtain ⟨events, sent, told⟩ := advanced.told
  exact ⟨events, sent.listening listens, told⟩

/-- The line with which a summary makes up for a diagnosis that no event has told of. -/
def Diagnosis.failureLine (found : Diagnosis) : String := found.stage.name ++ "; " ++ found.message

/-- Of each diagnosis either an event or a line of the summary tells, and of none both do. -/
def ToldOnce (diagnoses told : List Diagnosis) (lines : List String) : Prop :=
  ∃ untold, diagnoses.Perm (told ++ untold) ∧ told.Sublist diagnoses ∧
    lines = untold.map Diagnosis.failureLine

theorem ToldOnce.nil : ToldOnce [] [] [] := ⟨[], .nil, .slnil, rfl⟩

theorem ToldOnce.append {first second told others : List Diagnosis} {lines more : List String}
    (once : ToldOnce first told lines) (again : ToldOnce second others more) :
    ToldOnce (first ++ second) (told ++ others) (lines ++ more) := by
  obtain ⟨untold, all, kept, rfl⟩ := once
  obtain ⟨further, rest, keptToo, rfl⟩ := again
  refine ⟨untold ++ further, ?_, kept.append keptToo, List.map_append.symm⟩
  calc (first ++ second).Perm ((told ++ untold) ++ (others ++ further)) := all.append rest
    List.Perm _ ((told ++ others) ++ (untold ++ further)) := by
      simp only [List.append_assoc]
      exact .append_left told (List.perm_append_comm_assoc ..)

namespace State

def failureLine? (state : State) : Option String :=
  state.exception.map fun error => state.stage.name ++ "; " ++ error.message

theorem ToldBy.once {state : State} {told : List Diagnosis} (toldBy : state.ToldBy told) :
    ToldOnce state.diagnoses told state.failureLine?.toList := by
  unfold ToldBy at toldBy
  unfold failureLine?
  cases failed : state.exception with
  | none =>
    rw [failed] at toldBy
    dsimp only at toldBy
    exact ⟨[], by rw [toldBy, List.append_nil], by rw [toldBy], rfl⟩
  | some error =>
    rw [failed] at toldBy
    obtain ⟨kind, earlier, later, rfl, recorded⟩ := toldBy
    refine ⟨[{ Diagnosis.error error.message state.stage with kind }], ?_, ?_, rfl⟩
    · rw [recorded, List.append_assoc]
      exact .append_left earlier (List.perm_append_singleton ..).symm
    · rw [recorded]
      exact .append_left (List.sublist_cons_self ..) earlier

variable {previous : State} {artifacts : Artifacts} {outcome : Outcome}
  {follows : previous.stage.next? = some artifacts.stage}

theorem allDiagnoses_derive : (previous.derive artifacts outcome follows).allDiagnoses =
    previous.allDiagnoses ++ (previous.derive artifacts outcome follows).diagnoses := by
  simp [allDiagnoses, derive, ancestors]

theorem failureLines_derive : CommandLine.failureLines (previous.derive artifacts outcome follows) =
    CommandLine.failureLines previous ++ (previous.derive artifacts outcome follows).failureLine?.toList := by
  simp only [CommandLine.failureLines, derive, ancestors, List.reverse_cons, List.filterMap_append]
  cases exception : outcome.exception <;> simp [failureLine?, State.exception, State.outcome, exception]

end State

/-- Along a way of a workflow the diagnoses of the states that it makes are told of once. -/
theorem Workflow.Goes.toldOnce {workflow : Workflow} {system : System} {start last : State}
    {world after : World} (goes : workflow.Goes system start world (.ok last) after) :
    ∃ events fresh lines, world.Sent events after ∧
      last.allDiagnoses = start.allDiagnoses ++ fresh ∧
      CommandLine.failureLines last = CommandLine.failureLines start ++ lines ∧
      ToldOnce fresh (events.filterMap Event.diagnosis?) lines := by
  refine goes.ok_induction (motive := fun state before => ∃ events fresh lines, before.Sent events after ∧
    last.allDiagnoses = state.allDiagnoses ++ fresh ∧
    CommandLine.failureLines last = CommandLine.failureLines state ++ lines ∧
    ToldOnce fresh (events.filterMap Event.diagnosis?) lines) ?stops ?stage ?told
  case stops =>
    intro settled
    exact ⟨[], [], [], World.sent_nothing _, (List.append_nil _).symm, (List.append_nil _).symm, .nil⟩
  case stage =>
    rintro state next before between - ⟨-, ⟨artifacts, outcome, follows, rfl⟩, events, first, told⟩
      ⟨later, fresh, lines, sent, all, failures, once⟩
    refine ⟨events ++ later, _, _, first.trans sent, ?_, ?_, List.filterMap_append ▸ told.once.append once⟩
    · rw [all, State.allDiagnoses_derive, List.append_assoc]
    · rw [failures, State.failureLines_derive, List.append_assoc]
  case told =>
    rintro state before ⟨events, fresh, lines, sent, rest⟩
    exact ⟨events, fresh, lines, ⟨sent.observer, sent.events⟩, rest⟩

namespace CommandLine

theorem linesOf_eventLines (events : List Event) :
    linesOf .err (events.map eventLine) = (events.filterMap Event.diagnosis?).map Diagnosis.render := by
  induction events with
  | nil => rfl
  | cons event events ih =>
    cases event with
    | diagnosis found => exact congrArg (found.render :: ·) ih
    | lexerTime | parserTime | tokens | tree => exact ih

end CommandLine

/-- What has come up between a start and a last state was told of once, live between two worlds or by the lines
that the summary has got. -/
def State.ToldSince (start last : State) (before after : World) : Prop :=
  ∃ events fresh lines, after.events = before.events ++ events ∧
    last.allDiagnoses = start.allDiagnoses ++ fresh ∧
    CommandLine.failureLines last = CommandLine.failureLines start ++ lines ∧
    ToldOnce fresh (events.filterMap Event.diagnosis?) lines

theorem Workflow.resume_toldSince {workflow : Workflow} {system : System} {start last : State}
    {world after : World} (listens : world.observer = .listening)
    (ok : workflow.resume system start world = (.ok last, after)) : start.ToldSince last world after := by
  have goes := goes_resume workflow system start world
  rw [ok] at goes
  obtain ⟨events, fresh, lines, sent, told⟩ := goes.toldOnce
  exact ⟨events, fresh, lines, sent.listening listens, told⟩

/-- The diagnosis events of a stage are the diagnoses of the state that it makes, in order, but for the one of
an exception. Over a whole run each diagnosis that comes up is told of once, by an event or by the summary, and
standard error of a session shows just these. -/
theorem diagnoses_told_once (system : System) :
    (∀ checker (input : StateAt .input) world next after, world.observer = .listening →
      GrammarCheck.run checker input world = (.ok next, after) → next.state.ToldLive world after) ∧
    (∀ request (checked : StateAt .grammarChecked) world next after, world.observer = .listening →
      Generation.run system request checked world = (.ok next, after) → next.state.ToldLive world after) ∧
    (∀ request (generated : StateAt .parserGenerated) world next after, world.observer = .listening →
      Compilation.run system request generated world = (.ok next, after) → next.state.ToldLive world after) ∧
    (∀ request (compiled : StateAt .parserCompiled) world next after, world.observer = .listening →
      TextParsing.run system request compiled world = (.ok next, after) → next.state.ToldLive world after) ∧
    (∀ (workflow : Workflow) start world last after, world.observer = .listening →
      workflow.resume system start world = (.ok last, after) → start.ToldSince last world after) ∧
    ∀ (workflow : Workflow) files last after,
      workflow.run system (.start files .listening) = (.ok last, after) →
        let told := after.events.filterMap Event.diagnosis?
        let summary := CommandLine.failureLines last
        ToldOnce last.allDiagnoses told summary ∧
          (CommandLine.runWorkflow system workflow false files).err = told.map Diagnosis.render ++ summary := by
  refine ⟨?check, ?generation, ?compilation, ?parsing, ?resumed, ?session⟩
  case check => exact fun _ _ _ _ _ listens ok => (GrammarCheck.run_advanced ok).toldLive listens
  case generation => exact fun _ _ _ _ _ listens ok => (Generation.run_advanced ok).toldLive listens
  case compilation => exact fun _ _ _ _ _ listens ok => (Compilation.run_advanced ok).toldLive listens
  case parsing => exact fun _ _ _ _ _ listens ok => (TextParsing.run_advanced ok).toldLive listens
  case resumed => exact fun _ _ _ _ _ listens ok => Workflow.resume_toldSince listens ok
  case session =>
    intro workflow files last after ok told summary
    constructor
    · obtain ⟨events, fresh, lines, sent, all, failures, once⟩ := Workflow.resume_toldSince rfl ok
      change last.allDiagnoses = [] ++ fresh at all
      change summary = [] ++ lines at failures
      change after.events = [] ++ events at sent
      simp only [told, sent, all, failures, List.nil_append]
      exact once
    · rw [← CommandLine.linesOf_eventLines, CommandLine.runWorkflow, ok]
      rfl

/-- A checker warns and the generator cannot be started. The warning comes as an event and the failure in the
summary. A generator that is lost has told of its line by then, and its failure is recorded in front of that. -/
theorem warning_and_failed_start_told :
    let system : System := fun _ _ => .failed .noEntry
    let losing : System := fun _ files => .lost [.line .err "odd"] .noChild files false
    let target : Target := ⟨"t", "T", .hosted, none, "Main", [], [], [], "T", ["x"], "/*", "*/", none, none, none⟩
    let checker : Checker :=
      ⟨fun _ => ⟨some "g", ["r"], [], [], [.unlocated "odd" .warning .grammarChecked]⟩, false⟩
    let workflow : Workflow := { Workflow.usual ⟨"g", [], none⟩ target with checker }
    let input : StateAt .input := ⟨.input workflow.project, rfl⟩
    let checked := input.next (.grammarChecked ⟨"g", ["r"], [], []⟩) .empty rfl
    let files : FileStore := ⟨.folder [], []⟩
    let world := World.start files .listening
    (∃ next after, Generation.run system ⟨target, default, default⟩ checked world = (.ok next, after) ∧
      next.state.exception ≠ none ∧ next.state.ToldLive world after) ∧
    (∃ next after, Generation.run losing ⟨target, default, default⟩ checked world = (.ok next, after) ∧
      next.state.ToldLive world after ∧ after.events = [.diagnosis (Generation.unknown "odd")] ∧
      next.state.diagnoses.map Diagnosis.message =
        ["I/O error: No child processes (os error 10)", "Unknown error: odd"]) ∧
    (∃ last after, workflow.run system world = (.ok last, after) ∧
      ToldOnce last.allDiagnoses (after.events.filterMap Event.diagnosis?) (CommandLine.failureLines last)) ∧
    (CommandLine.runWorkflow system workflow false files).err =
      ["GrammarChecked; Warning; odd",
        "ParserGenerated; Failed to start 'java': No such file or directory (os error 2)"] := by
  intro system losing target checker workflow input checked files world
  obtain ⟨-, generation, -, -, -, session⟩ := diagnoses_told_once system
  refine ⟨?generation, ?lost, ?session, by decide +kernel⟩
  case generation =>
    obtain ⟨next, after, ok⟩ := exists_of_isOk
      (by decide +kernel : (Generation.run system ⟨target, default, default⟩ checked world).1.isOk = true)
    have failed : (Generation.run system ⟨target, default, default⟩ checked world).1.map
        (fun next => next.state.exception.isSome) = .ok true := by decide +kernel
    rw [ok] at failed
    refine ⟨next, after, ok, Option.isSome_iff_ne_none.1 (Except.ok.inj failed), ?_⟩
    exact generation _ checked world next after rfl ok
  case lost =>
    obtain ⟨next, after, ok⟩ := exists_of_isOk
      (by decide +kernel : (Generation.run losing ⟨target, default, default⟩ checked world).1.isOk = true)
    have recorded : (Generation.run losing ⟨target, default, default⟩ checked world).1.map
        (fun next => next.state.diagnoses.map Diagnosis.message) =
          .ok ["I/O error: No child processes (os error 10)", "Unknown error: odd"] := by decide +kernel
    have sent : (Generation.run losing ⟨target, default, default⟩ checked world).2.events =
        [.diagnosis (Generation.unknown "odd")] := by decide +kernel
    rw [ok] at recorded sent
    have told := (diagnoses_told_once losing).2.1 _ checked world next after rfl ok
    exact ⟨next, after, ok, told, sent, Except.ok.inj recorded⟩
  case session =>
    obtain ⟨last, after, ok⟩ := exists_of_isOk
      (by decide +kernel : (workflow.run system world).1.isOk = true)
    exact ⟨last, after, ok, (session workflow files last after ok).1⟩

end GrammarFlow
