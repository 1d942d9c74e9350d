import GrammarFlow.CommandLine.Listing
import GrammarFlow.CommandLine.Options

/-!
A run of the program from its command line to its exit code. Results and the summary go to standard
output, diagnoses and failures to standard error. The code is 0 if all went well, 1 if the last
state of the workflow has errors, and 2 if nothing could be started. A workflow that is interrupted has
codes of its own.
-/

namespace GrammarFlow.CommandLine

/-- The end of a session: what it has printed, its exit code and the files it leaves. -/
structure Session where
  out : List String
  err : List String
  code : Nat
  files : FileStore

namespace Session

def exitErrors : Nat := 1
def exitUsage : Nat := 2
def exitCrashed : Nat := 101
def exitInterrupted : Nat := 130

/-- A session that ends before any work. -/
def refuse (files : FileStore) (message : String) : Session := ⟨[], [message], exitUsage, files⟩

def print (files : FileStore) (lines : List String) : Session := ⟨lines, [], 0, files⟩

end Session

def versionLine : String := "grammarlab 0.1.0"

def usageLine : String := "Usage: grammarlab [OPTIONS] <grammar>..."

def optionLine (name : OptionName) : String :=
  let short := match name.short? with
    | some letter => "-" ++ letter.toString ++ ", "
    | none => "    "
  let value := if name.takesValue then " <" ++ name.long ++ ">" else ""
  "  " ++ short ++ "--" ++ name.long ++ value ++ "  " ++ name.describe

def helpLines : List String :=
  ["Check a grammar, generate and build its parser, and parse text with it", "", usageLine, "",
   "Arguments:",
   "  <grammar>...  Grammar files (a combined grammar, or a lexer and a parser grammar)", "",
   "Options:"] ++ OptionName.all.map optionLine

def targetLines (configuration : Configuration) : List String :=
  ["Available runtimes:", ""] ++ configuration.targets.flatMap fun target =>
    ["  " ++ target.id,
     "    " ++ target.name ++ " (generator language " ++ target.language ++ ")", ""]

/-- The local file is optional; a file that is asked for has to be there. -/
def loadConfiguration (options : Options) (files : FileStore) :
    Except ConfigurationError Configuration :=
  let asked : List Configuration.Layer := options.config.toList.map (⟨·, false⟩)
  Configuration.load files (⟨Configuration.localFile, true⟩ :: asked) []

/-- The workflow that the options describe; the message says why there is none. -/
def plan (options : Options) (configuration : Configuration) (files : FileStore) :
    Except String Workflow :=
  match configuration.target? options.target with
  | none =>
    .error ("Unknown runtime '" ++ options.target ++ "'. Available runtimes: " ++
      ", ".intercalate configuration.targetIds)
  | some target =>
    match Project.load files options.grammars with
    | .error error => .error ("Cannot read grammar: " ++ error.message)
    | .ok project =>
      .ok { Workflow.usual project target with
        workspace := configuration.workspace
        generator := configuration.generator
        parameters :=
          ⟨options.text, options.root, options.tokenizeOnly,
            options.predictionMode.getD configuration.predictionMode⟩
        endStage := options.endStage.getD .textParsed }

/-- Where an event is shown, and how. -/
def eventLine : Event → Stream × String
  | .lexerTime duration => (.out, "Lexer time: " ++ duration.render)
  | .parserTime duration => (.out, "Parser time: " ++ duration.render)
  | .tokens dump => (.out, "Tokens: " ++ dump)
  | .tree dump => (.out, "Tree:\n" ++ dump)
  | .diagnosis diagnosis => (.err, diagnosis.render)

def linesOf (stream : Stream) (lines : List (Stream × String)) : List String :=
  (lines.filter fun line => line.1 = stream).map Prod.snd

/-- The failures of stages, oldest first; no event has shown them. -/
def failureLines (state : State) : List String :=
  state.ancestors.reverse.filterMap fun state =>
    state.exception.map fun error => state.stage.name ++ "; " ++ error.message

def summaryLine (state : State) : String :=
  let errors := (state.allDiagnoses.filter Diagnosis.isError).length
  state.stage.name ++ ": " ++ if errors = 0 then "ok" else toString errors ++ " error(s)"

def exitCode (state : State) : Nat := if state.hasErrors then Session.exitErrors else 0

def interruptionCode : Interruption → Nat
  | .cancelled => Session.exitInterrupted
  | .exceeded _ => Session.exitCrashed

/-- Runs a workflow. As JSON, only the diagnoses are printed, when all is done. -/
def runWorkflow (system : System) (workflow : Workflow) (json : Bool) (files : FileStore) :
    Session :=
  let (result, world) := workflow.run system (.start files .listening)
  let live := if json then [] else world.events.map eventLine
  match result with
  | .error stopped =>
    ⟨linesOf .out live, linesOf .err live ++ [stopped.message], interruptionCode stopped,
      world.files⟩
  | .ok state =>
    if json then ⟨[listing state.allDiagnoses], [], exitCode state, world.files⟩
    else
      ⟨linesOf .out live ++ [summaryLine state], linesOf .err live ++ failureLines state,
        exitCode state, world.files⟩

def runOptions (system : System) (options : Options) (files : FileStore) : Session :=
  match loadConfiguration options files with
  | .error error => .refuse files ("Configuration error: " ++ error.message)
  | .ok configuration =>
    if options.listTargets then .print files (targetLines configuration)
    else
      match plan options configuration files with
      | .error message => .refuse files message
      | .ok workflow => runWorkflow system workflow options.json files

/-- The session that the words of a command line ask for. -/
def run (system : System) (words : List String) (files : FileStore) : Session :=
  match Request.ofWords words with
  | .error error => .refuse files ("error: " ++ error.message ++ "\n\n" ++ usageLine)
  | .ok .help => .print files helpLines
  | .ok .version => .print files [versionLine]
  | .ok (.run options) => runOptions system options files

end GrammarFlow.CommandLine
