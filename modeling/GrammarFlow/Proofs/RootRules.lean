import GrammarFlow.Proofs.RuleTables
import GrammarFlow.Proofs.StageCourses

/-!
The root rule of a parser run. The parser is started for the rule that the requested name resolves to in the table of
the compiled parser. A name that resolves to no rule is refused before anything is started.
-/

namespace GrammarFlow

theorem runProgram_launched {system : System} {stage : Stage} {ignored : IgnoredLines} {invocation : Invocation}
    {interpret : FileStore → Stream → String → Text.Checked Event} {world : World} (going : world.cancelled = false) :
    (runProgram system stage ignored invocation interpret world).2.launched = world.launched ++ [invocation] := by
  unfold runProgram
  dsimp only
  split
  next => simp [(World.notifyAll_kept _ _).1, going]
  next => simp [(World.notifyAll_kept _ _).1, going]
  next => simp [(World.notifyAll_kept _ _).1, going]
  next => simp [(World.notifyAll_kept _ _).1, going]
  next => simp [(Progress.noteExit_kept ..).1, (World.notifyAll_kept _ _).1, going]

namespace TextParsing
variable {system : System} {request : Request} {compiled : StateAt .parserCompiled} {world : World} {path : String}

def preamble (request : Request) (compiled : StateAt .parserCompiled) : List String :=
  let grammar := (compiled.state.checked?.map GrammarChecked.grammarName).getD ""
  let values : TemplateValues := ⟨request.target.mainFile, compiled.compiled.directory,
    request.workspace.targetDirectory request.target.id, grammar⟩
  request.target.arguments.map values.expand

def startAt (request : Request) (compiled : StateAt .parserCompiled) (program root path : String) : Invocation where
  program := program
  arguments := preamble request compiled ++
    [root, path, toString request.parameters.tokenizeOnly, request.parameters.predictionMode.name]
  directory := compiled.compiled.directory
  environment := request.target.environment

theorem plan_resolved {files : FileStore} {text : Source} {program : String} {root : EntryRule}
    (readable : readText files path = .ok text)
    (startable : request.target.program compiled.compiled.directory = .ok program)
    (resolved : compiled.compiled.rules.resolve request.parameters.root = .ok root) :
    plan request compiled path files =
      .ok (text, root, startAt request compiled program root.name (files.absolute path)) := by
  have flag (b : Bool) : (if b then "true" else "false") = toString b := by cases b <;> rfl
  simp only [plan, invocation, readable, startable, resolved, fixedArguments, flag]
  rfl

theorem plan_unresolved {error : RuleError} (path : String) (files : FileStore)
    (unresolved : compiled.compiled.rules.resolve request.parameters.root = .error error) :
    ∃ message, plan request compiled path files = .error (.configuration message) ∧
      ∀ text, readText files path = .ok text → message = error.message := by
  cases readable : readText files path with
  | ok text =>
    refine ⟨error.message, ?_, fun _ _ => rfl⟩
    simp only [plan, readable, unresolved]
    rfl
  | error failure =>
    obtain ⟨message, rfl⟩ : ∃ message, failure = .configuration message := by
      unfold readText at readable
      split at readable
      next => cases readable
      next => exact ⟨_, (Except.error.inj readable).symm⟩
    refine ⟨message, ?_, fun _ other => nomatch other⟩
    simp only [plan, readable]
    rfl

/-- What a run does with the root rule that is requested for a text, in a table of rules. -/
structure HandsOnRoot (rules : RuleTable) (system : System) (request : Request) (compiled : StateAt .parserCompiled)
    (world : World) (path : String) : Prop where
  started : ∀ text program root, readText world.files path = .ok text →
    request.target.program compiled.compiled.directory = .ok program →
    rules.resolve request.parameters.root = .ok root →
      (run system request compiled world).2.launched =
        world.launched ++ [startAt request compiled program root.name (world.files.absolute path)]
  refused : ∀ error, rules.resolve request.parameters.root = .error error →
    ∃ next message, run system request compiled world = (.ok next, world) ∧
      next.state.exception = some (.configuration message) ∧ next.state.command = none ∧
      ∀ text, readText world.files path = .ok text → message = error.message

theorem handsOnRoot (going : world.cancelled = false) (given : request.parameters.textPath = some path) :
    HandsOnRoot compiled.compiled.rules system request compiled world path := by
  refine ⟨?started, ?refused⟩
  case started =>
    intro text program root readable startable resolved
    have planned := plan_resolved readable startable resolved
    unfold run
    simp only [going, given, planned, Bool.false_eq_true, if_false]
    rw [← runProgram_launched going]
    split
    next executed => exact (congrArg (World.launched ·.2) executed).symm
    next executed => exact (congrArg (World.launched ·.2) executed).symm
  case refused =>
    intro error unresolved
    obtain ⟨message, planned, told⟩ := plan_unresolved path world.files unresolved
    unfold run
    simp only [going, given, planned, Bool.false_eq_true, if_false]
    exact ⟨_, message, rfl, rfl, rfl, told⟩

end TextParsing

/-- A root rule is looked for among the rules that a list declares and no others, with an index as without one, and a
parser is started for the rule that is found or not at all. -/
theorem root_rules_resolved (rules : List String) :
    (RuleTable.ofList rules).Resolves rules ∧
    ((RuleIndex.ofList rules).Indexes (.ofList rules) ∧
      ∀ requested, (RuleIndex.ofList rules).resolve requested = (RuleTable.ofList rules).resolve requested) ∧
    ∀ system request (compiled : StateAt .parserCompiled) world path, compiled.compiled.rules = .ofList rules →
      world.cancelled = false → request.parameters.textPath = some path →
        TextParsing.HandsOnRoot (.ofList rules) system request compiled world path := by
  refine ⟨RuleTable.resolves_ofList rules, ⟨RuleIndex.indexes_ofList rules, fun requested => ?_⟩, ?_⟩
  · exact (RuleIndex.indexes_ofList rules).resolve_eq requested
  · intro system request compiled world path declared going given
    rw [← declared]
    exact TextParsing.handsOnRoot going given

/-- A rule that is declared twice, and one that is not declared. The target fills in arguments of its own. -/
theorem declared_root_started :
    let rules := RuleTable.ofList ["program", "statement", "program", "expr"]
    let system : System := fun _ files => .ran [] (.exited 0) files false
    let target : Target := ⟨"t", "T", .hosted, some "host", "Main", [], [],
      ["run", "--of=\x7bgrammar\x7d", "\x7bworking_dir\x7d/\x7bmain_file\x7d"], "T", ["x"], "/*", "*/", none,
      none, none⟩
    let input : StateAt .input := ⟨.input ⟨"g", [], none⟩, rfl⟩
    let checked := input.next (.grammarChecked ⟨"g", rules.names, [], []⟩) .empty rfl
    let generated := checked.next (.parserGenerated ⟨"t", "d", [], []⟩) .empty rfl
    let compiled := generated.next (.parserCompiled ⟨"t", "d", rules, none⟩) .empty rfl
    let world := World.start ⟨.folder [("text", .file [97] false)], []⟩ .absent
    let request (root : String) : TextParsing.Request := ⟨target, default, ⟨some "/text", some root, false, .ll⟩⟩
    rules.resolve (some "expr") = .ok ⟨"expr", 2⟩ ∧ rules.resolve (some "missing") = .error (.unknown "missing") ∧
    (TextParsing.run system (request "expr") compiled world).2.launched =
      [⟨"host", ["run", "--of=g", "d/Main", "expr", "/text", "false", "ll"], "d", []⟩] ∧
    ∃ next, TextParsing.run system (request "missing") compiled world = (.ok next, world) ∧
      next.state.exception = some (.configuration "Root rule 'missing' is not declared") := by
  intro rules system target input checked generated compiled world request
  obtain ⟨resolves, -, runs⟩ := root_rules_resolved ["program", "statement", "program", "expr"]
  have found : rules.resolve (some "expr") = .ok ⟨"expr", 2⟩ :=
    (resolves.found "expr" (by decide) ⟨"expr", 2⟩).mpr ⟨rfl, by decide⟩
  have missing : rules.resolve (some "missing") = .error (.unknown "missing") :=
    (resolves.missing "missing" (by decide)).mpr (by decide)
  refine ⟨found, missing, ?started, ?refused⟩
  case started =>
    have started := (runs system (request "expr") compiled world "/text" rfl rfl rfl).started
    have launched := started ⟨"text", "a"⟩ "host" ⟨"expr", 2⟩ (by decide +kernel) rfl found
    exact launched.trans (by decide +kernel)
  case refused =>
    have refused := (runs system (request "missing") compiled world "/text" rfl rfl rfl).refused
    obtain ⟨next, message, ran, exception, -, told⟩ := refused (.unknown "missing") missing
    rw [told ⟨"text", "a"⟩ (by decide +kernel)] at exception
    exact ⟨next, ran, exception⟩

end GrammarFlow
