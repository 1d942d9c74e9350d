import GrammarFlow.Target.Settings
import GrammarFlow.Text.DecimalDigit
import GrammarFlow.Workflow.World

/-!
From a checked grammar to a generated parser. The working folder is made anew and gets the grammar
files, their actions between marks; then the parser generator runs in it. What the generator
reports about a marked file is shown in the plain source.
-/

namespace GrammarFlow

namespace Generation

structure Request where
  target : Target
  generator : Generator
  workspace : Workspace

/-- Identifiers with a dot between each two. -/
def isPackageName : (atStart : Bool) → List Char → Bool
  | atStart, [] => !atStart
  | true, c :: rest =>
    (c.isAlpha || c = '_') && isPackageName false rest
  | false, c :: rest =>
    if c = '.' then isPackageName true rest
    else (c.isAlpha || c = '_' || Text.isDecimalDigit c) && isPackageName false rest

def checkPackage (generator : Generator) : Except StageFailure Unit :=
  match generator.packageName with
  | some name =>
    if isPackageName true name.toList then .ok ()
    else .error (.configuration ("Incorrect package name '" ++ name ++ "'"))
  | none => .ok ()

/-- The fragments that lie in a source of this name, each with its number in the whole grammar. -/
def fragmentsOf (source : Source) (fragments : List Span) : List (Nat × Span) :=
  (fragments.zipIdx.filter fun (fragment, _) => fragment.source.name = source.name).map
    fun (fragment, number) => (number, fragment)

/-- Marks the sources of a grammar and writes them into a folder. -/
def writeMarked (marks : MarkStyle) (directory : String) (fragments : List Span) :
    List Source → FileWork (List MarkedSource)
  | [] => return []
  | source :: sources => do
    let marked ← match MarkedSource.ofFragments source marks (fragmentsOf source fragments) with
      | .ok marked => pure marked
      | .error error => throw (.internal error.message)
    FileWork.change fun files =>
      files.writeText (Path.join directory source.name) marked.source.text
    return marked :: (← writeMarked marks directory fragments sources)

/-- Makes the working folder anew, with the marked grammar files in it. -/
def freshFolder (marks : MarkStyle) (directory : String) (fragments : List Span)
    (sources : List Source) : FileWork (List MarkedSource) := do
  if (← get).holds directory then
    FileWork.change fun files => files.removeFolder directory
  FileWork.change fun files => files.createFolders directory
  writeMarked marks directory fragments sources

def invocation (request : Request) (directory : String) (files : FileStore)
    (marked : List MarkedSource) : Invocation :=
  let generator := request.generator
  let switches :=
    ["-jar", files.absolute generator.jar, "-o", ".", "-Dlanguage=" ++ request.target.language,
     "-encoding", generator.encoding,
     if generator.listener then "-listener" else "-no-listener",
     if generator.visitor then "-visitor" else "-no-visitor"]
  let package := match generator.packageName with
    | some name => ["-package", name]
    | none => []
  { program := generator.tool
    arguments := switches ++ package ++ marked.map fun marked => marked.source.name
    directory
    environment := [] }

/-- Where in the plain source a report about a marked file belongs. -/
def locate? (marked : List MarkedSource) (report : Report) : Option Span := do
  let name := Path.shownName (← report.file)
  let file ← marked.find? (·.source.name = name)
  let offset ← file.source.offsetAt? ⟨← report.line, ← report.column⟩
  return file.plainSpan offset 1

def checkedLocate? (marked : List MarkedSource) (report : Report) : OptionT Text.Checked Span := do
  let name := Path.shownName (← report.file.getM)
  let file ← (marked.find? (·.source.name = name)).getM
  let offset ← file.source.checkedOffsetAt? ⟨← report.line.getM, ← report.column.getM⟩
  file.checkedPlainSpan offset 1

/-- The diagnosis of a report, which is about the plain source where it has a place there. -/
def diagnosis (report : Report) : Option Span → Diagnosis
  | some span => .located span report.message report.severity .parserGenerated
  | none =>
    { Diagnosis.unlocated report.message report.severity .parserGenerated with
      kind := .childProcessDiagnostic }

/-- A line that is no report is an error as it stands. -/
def unknown (line : String) : Diagnosis := .error ("Unknown error: " ++ line) .parserGenerated

/-- The diagnosis of a line that the generator writes. -/
def diagnose (marked : List MarkedSource) (line : String) : Diagnosis :=
  match ReportFormat.generatorMessage.read? line with
  | none => unknown line
  | some report => diagnosis report (locate? marked report)

def checkedDiagnose (marked : List MarkedSource) (line : String) : Text.Checked Diagnosis := do
  match ← (ReportFormat.generatorMessage.checkedRead? line).run with
  | none => return unknown line
  | some report => return diagnosis report (← (checkedLocate? marked report).run)

def plan (request : Request) (directory : String) (checked : StateAt .grammarChecked) :
    FileWork (List MarkedSource × Invocation) := do
  match checkPackage request.generator with
  | .ok () => pure ()
  | .error error => throw error
  let project ← match checked.state.project? with
    | some project => pure project
    | none => throw (.internal "workflow chain has no input")
  let marked ← freshFolder request.target.markStyle directory checked.checked.fragments
    project.sources
  return (marked, invocation request directory (← get) marked)

/-- Notes which files the generator has left, however it ended. -/
def collect (target : Target) (directory : String) (progress : Progress) :
    List String × Progress :=
  match generatedFiles target.generates progress.world.files directory with
  | .ok files => (files, progress)
  | .error error => ([], progress.fail .parserGenerated (.io error.message) .abnormalExit)

def run (system : System) (request : Request) (checked : StateAt .grammarChecked)
    (world : World) : Except Interruption (StateAt .parserGenerated) × World :=
  if world.cancelled then (.error .cancelled, world)
  else
    let target := request.target
    let directory := request.workspace.workingDirectory checked.checked.grammarName target.id
    let artifacts (marked : List MarkedSource) (files : List String) : Artifacts :=
      .parserGenerated ⟨target.id, directory, files, marked⟩
    match world.work (plan request directory checked) with
    | (.error error, world) =>
      let progress := (Progress.start world).fail .parserGenerated error .configurationError
      (.ok (checked.next (artifacts [] []) progress.outcome rfl), world)
    | (.ok (marked, invocation), world) =>
      let interpret (_ : FileStore) (_ : Stream) (line : String) : Text.Checked Event :=
        .diagnosis <$> checkedDiagnose marked line
      match runProgram system .parserGenerated request.generator.ignoredLines invocation interpret
          world with
      | (.error stopped, world) => (.error stopped, world)
      | (.ok tool, world) =>
        match tool.status with
        | none => (.ok (checked.next (artifacts marked []) tool.progress.outcome rfl), world)
        | some _ =>
          let (files, progress) := collect target directory tool.progress
          (.ok (checked.next (artifacts marked files) progress.outcome rfl), progress.world)

end Generation

end GrammarFlow
