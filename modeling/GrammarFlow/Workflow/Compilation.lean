import GrammarFlow.Marks.FragmentMap
import GrammarFlow.Target.Settings
import GrammarFlow.Workflow.World

/-!
From a generated parser to a compiled one. The marks are taken out of the generated files and the
target's entry point is put beside them; then the target's compiler runs, if it has one. An error
inside an action is reported on the grammar, any other on the generated file.
-/

namespace GrammarFlow

namespace Compilation

structure Request where
  target : Target
  workspace : Workspace

/-- The generated files that had marks, by name. -/
abbrev FragmentMaps := List (String × FragmentMap)

/-- Takes the marks out of the files that have any; the maps of earlier files are given. -/
def stripFiles (marks : MarkStyle) (fragments : List Span) :
    FragmentMaps → List String → FileWork FragmentMaps
  | maps, [] => return maps
  | maps, path :: paths => do
    let name := Path.shownName path
    let text ← FileWork.ask fun files => files.readText path
    let map ← match FragmentMap.strip name text marks fragments with
      | .ok map => pure map
      | .error error => throw (.internal (name ++ ": " ++ error.message))
    if map.fragments.isEmpty then stripFiles marks fragments maps paths
    else
      FileWork.change fun files => files.writeText path map.source.text
      stripFiles marks fragments ((name, map) :: maps) paths

/-- A grammar without actions leaves no marks to look for. -/
def stripMarks (marks : MarkStyle) (fragments : List Span) (paths : List String) :
    FileWork FragmentMaps :=
  if fragments.isEmpty then return [] else stripFiles marks fragments [] paths

/-- Fills in the names of a grammar and its recognizers. -/
def fillNames (grammar text : String) : String :=
  let text := Text.replace text "__TemplateLexerName__" (grammar ++ "Lexer")
  let text := Text.replace text "__TemplateParserName__" (grammar ++ "Parser")
  Text.replace text "__TemplateGrammarName__" grammar

/-- Writes the filled-in template into a folder. Its file name is a template, too. -/
def writeEntryPoint (template directory grammar : String) : FileWork String := do
  let text ← match (← get).readText template with
    | .ok text => pure text
    | .error error =>
      throw (.configuration
        ("Cannot read entry template '" ++ template ++ "': " ++ error.message))
  let path := Path.join directory (fillNames grammar (Path.shownName template))
  FileWork.change fun files => files.writeText path (fillNames grammar text)
  return path

def entryPoint (request : Request) (directory grammar : String) : FileWork (Option String) :=
  match request.target.entryTemplate with
  | none => return none
  | some template =>
    let folder := request.workspace.targetDirectory request.target.id
    some <$> writeEntryPoint (Path.join folder template) directory grammar

/-- An argument that stands for the names of all generated files. -/
def filesPlaceholder : String := "\x7bfiles\x7d"

/-- The arguments of the compiler; the generated files are looked up only if asked for. -/
def arguments (values : TemplateValues) (target : Target) (files : FileStore) :
    List String → Except FileError (List String)
  | [] => .ok []
  | template :: templates => do
    let expanded ←
      if template = filesPlaceholder then
        pure ((← generatedFiles target.generates files values.workingDirectory).map
          Path.shownName)
      else pure [values.expand template]
    return expanded ++ (← arguments values target files templates)

def invocation (request : Request) (compiler : Compiler) (directory grammar : String)
    (files : FileStore) : Except FileError Invocation := do
  let target := request.target
  let values : TemplateValues :=
    ⟨target.mainFile, directory, request.workspace.targetDirectory target.id, grammar⟩
  return ⟨compiler.tool, ← arguments values target files compiler.arguments, directory,
    target.environment⟩

/-- A generated file without its marks, as it was given to the compiler. One that had no marks is read as the compiler
leaves it, for all messages alike; a compiler does not change the files that it reports on. -/
def sourceOf? (maps : FragmentMaps) (files : FileStore) (directory name : String) :
    Option Source :=
  match maps.lookup name with
  | some map => some map.source
  | none =>
    match files.readText (Path.join directory name) with
    | .ok text => some ⟨name, text⟩
    | .error _ => none

/-- Where a report belongs: in the grammar if it is about a copied action, else in the file. A line
without a column is meant from its beginning. -/
def locate? (maps : FragmentMaps) (files : FileStore) (directory : String) (report : Report) :
    Option Span := do
  let name := Path.shownName (← report.file)
  let source ← sourceOf? maps files directory name
  let offset ← source.offsetAt? ⟨← report.line, report.column.getD 1⟩
  let inGrammar := (maps.lookup name).bind fun map => map.grammarSpan? offset
  return inGrammar.getD (source.clampedSpan offset offset)

def checkedLocate? (maps : FragmentMaps) (files : FileStore) (directory : String) (report : Report) :
    OptionT Text.Checked Span := do
  let name := Path.shownName (← report.file.getM)
  let source ← (sourceOf? maps files directory name).getM
  let offset ← source.checkedOffsetAt? ⟨← report.line.getM, report.column.getD 1⟩
  let inGrammar := (maps.lookup name).bind fun map => map.grammarSpan? offset
  return inGrammar.getD (source.clampedSpan offset offset)

/-- The diagnosis of a report, located where it has a place. -/
def diagnosis (report : Report) : Option Span → Diagnosis
  | some span => .located span report.message report.severity .parserCompiled
  | none =>
    { Diagnosis.unlocated report.message report.severity .parserCompiled with
      kind := .childProcessDiagnostic }

/-- The diagnosis of a line that the compiler writes. -/
def diagnose (format : ReportFormat) (maps : FragmentMaps) (directory : String)
    (files : FileStore) (line : String) : Diagnosis :=
  match format.read? line with
  | none => .unlocated line .warning .parserCompiled
  | some report => diagnosis report (locate? maps files directory report)

def checkedDiagnose (format : ReportFormat) (maps : FragmentMaps) (directory : String)
    (files : FileStore) (line : String) : Text.Checked Diagnosis := do
  match ← (format.checkedRead? line).run with
  | none => return .unlocated line .warning .parserCompiled
  | some report => return diagnosis report (← (checkedLocate? maps files directory report).run)

def run (system : System) (request : Request) (generated : StateAt .parserGenerated)
    (world : World) : Except Interruption (StateAt .parserCompiled) × World :=
  if world.cancelled then (.error .cancelled, world)
  else
    let target := request.target
    let directory := generated.generated.directory
    let checked := generated.state.checked?.getD default
    let artifacts (entry : Option String) : Artifacts :=
      .parserCompiled ⟨target.id, directory, .ofList checked.parserRules, entry⟩
    let failed (world : World) (entry : Option String) (error : StageFailure) :
        Except Interruption (StateAt .parserCompiled) × World :=
      let progress := (Progress.start world).fail .parserCompiled error .configurationError
      (.ok (generated.next (artifacts entry) progress.outcome rfl), world)
    match world.work (stripMarks target.markStyle checked.fragments
        generated.generated.generatedFiles) with
    | (.error error, world) => failed world none error
    | (.ok maps, world) =>
      match world.work (entryPoint request directory checked.grammarName) with
      | (.error error, world) => failed world none error
      | (.ok entry, world) =>
        match target.compiler with
        | none => (.ok (generated.next (artifacts entry) .empty rfl), world)
        | some compiler =>
          match invocation request compiler directory checked.grammarName world.files with
          | .error error => failed world entry (.io error.message)
          | .ok invocation =>
            let interpret (files : FileStore) (_ : Stream) (line : String) : Text.Checked Event :=
              .diagnosis <$> checkedDiagnose compiler.reportFormat maps directory files line
            match runProgram system .parserCompiled compiler.ignoredLines invocation interpret
                world with
            | (.error stopped, world) => (.error stopped, world)
            | (.ok tool, world) =>
              (.ok (generated.next (artifacts entry) tool.progress.outcome rfl), world)

end Compilation

end GrammarFlow
