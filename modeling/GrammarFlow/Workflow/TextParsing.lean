import GrammarFlow.Transcript.Basic
import GrammarFlow.Target.Settings
import GrammarFlow.Workflow.World

/-!
From a compiled parser to a parsed text. The parser is started on the text with four arguments
behind the target's own: the root rule, the path of the text, whether to stop after the tokens,
and the prediction mode.
-/

namespace GrammarFlow

namespace TextParsing

/-- What to parse, and how. -/
structure Parameters where
  textPath : Option String
  /-- The first rule is meant where none is given. -/
  root : Option String
  tokenizeOnly : Bool
  predictionMode : PredictionMode
deriving DecidableEq, Repr, Inhabited

structure Request where
  target : Target
  workspace : Workspace
  parameters : Parameters

def readText (files : FileStore) (path : String) : Except StageFailure Source :=
  match files.readText path with
  | .ok text => .ok ⟨Path.shownName path, text⟩
  | .error error =>
    .error (.configuration
      ("Cannot read file to parse '" ++ path ++ "': " ++ error.message))

/-- The arguments that every generated parser is started with. -/
def fixedArguments (parameters : Parameters) (root path : String) : List String :=
  [root, path, if parameters.tokenizeOnly then "true" else "false",
   parameters.predictionMode.name]

def invocation (request : Request) (directory grammar root path : String) (files : FileStore) :
    Except StageFailure Invocation := do
  let target := request.target
  let values : TemplateValues :=
    ⟨target.mainFile, directory, request.workspace.targetDirectory target.id, grammar⟩
  return ⟨← target.program directory,
    target.arguments.map values.expand ++
      fixedArguments request.parameters root (files.absolute path),
    directory, target.environment⟩

/-- The text, the root rule and the start of the parser. A text that cannot be read is reported
before an unknown root rule, and that before a target that cannot be started. -/
def plan (request : Request) (compiled : StateAt .parserCompiled) (path : String)
    (files : FileStore) : Except StageFailure (Source × EntryRule × Invocation) := do
  let text ← readText files path
  let root ← match compiled.compiled.rules.resolve request.parameters.root with
    | .ok root => pure root
    | .error error => throw (.configuration error.message)
  let grammar := (compiled.state.checked?.map GrammarChecked.grammarName).getD ""
  let start ← invocation request compiled.compiled.directory grammar root.name path files
  return (text, root, start)

/-- What the events of a parser run amount to. -/
def artifacts (text : Source) (root : EntryRule) (events : List Event) : TextParsed :=
  { events.foldl TextParsed.receive { (default : TextParsed) with text := some text } with
    root := some root.name }

def run (system : System) (request : Request) (compiled : StateAt .parserCompiled)
    (world : World) : Except Interruption (StateAt .textParsed) × World :=
  if world.cancelled then (.error .cancelled, world)
  else
    match request.parameters.textPath with
    | none =>
      let progress := (Progress.start world).report
        { Diagnosis.error "File to parse is not specified" .textParsed with
          kind := .configurationError }
      (.ok (compiled.next (.textParsed default) progress.outcome rfl), progress.world)
    | some path =>
      match plan request compiled path world.files with
      | .error error =>
        let progress := (Progress.start world).fail .textParsed error .configurationError
        (.ok (compiled.next (.textParsed default) progress.outcome rfl), world)
      | .ok (text, root, invocation) =>
        let interpret (_ : FileStore) : Stream → String → Text.Checked Event :=
          checkedLineEvent (some text) request.target.reportFormat
        match runProgram system .textParsed request.target.ignoredLines invocation interpret
            world with
        | (.error stopped, world) => (.error stopped, world)
        | (.ok tool, world) =>
          (.ok (compiled.next (.textParsed (artifacts text root tool.events))
            tool.progress.outcome rfl), world)

end TextParsing

end GrammarFlow
