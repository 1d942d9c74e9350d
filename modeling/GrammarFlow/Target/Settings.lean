import GrammarFlow.Files.Path
import GrammarFlow.Marks.Mark
import GrammarFlow.Process.Run
import GrammarFlow.Transcript.Report
import GrammarFlow.Text.Replace

/-!
Targets and settings. A target is a language that parsers are generated in: how its parsers are
compiled and started, and the forms of its tools' messages. All that differs between targets is
data here. Beside them stand the settings of the parser generator and of the workspace.
-/

namespace GrammarFlow

/-- How a generated parser is started. -/
inductive Executable where
  /-- The compiler makes the main file a program of its own. -/
  | nativeBinary
  /-- The main file is run by a tool of the target. -/
  | hosted
deriving DecidableEq, Repr

namespace Executable

def name : Executable → String
  | nativeBinary => "native-binary"
  | hosted => "hosted"

def all : List Executable := [nativeBinary, hosted]

end Executable

inductive PredictionMode where
  | ll
  | sll
  | fastLl
deriving DecidableEq, Repr, Inhabited

namespace PredictionMode

def name : PredictionMode → String
  | ll => "ll"
  | sll => "sll"
  | fastLl => "fastll"

def all : List PredictionMode := [ll, sll, fastLl]

/-- Modes are asked for in letters of any case. -/
def ofName? (name : String) : Option PredictionMode :=
  all.find? (·.name = Text.lowercaseAscii name)

def unknownMessage (name : String) : String :=
  "Unknown prediction mode '" ++ Text.lowercaseAscii name ++ "'"

end PredictionMode

structure Compiler where
  tool : String
  arguments : List String
  messagePattern : WrittenPattern
  columnOrigin : Nat
  ignoredLines : IgnoredLines
deriving Repr

namespace Compiler

/-- Compilers count columns from 1 unless told otherwise. -/
def usualColumnOrigin : Nat := 1

def reportFormat (compiler : Compiler) : ReportFormat :=
  ⟨compiler.messagePattern.pattern, compiler.columnOrigin⟩

end Compiler

structure Target where
  id : String
  name : String
  executable : Executable
  /-- Starts the parsers of a hosted target. -/
  tool : Option String
  mainFile : String
  environment : List (String × String)
  ignoredLines : IgnoredLines
  arguments : List String
  /-- What the generator calls the target. -/
  language : String
  extensions : List String
  commentStart : String
  commentEnd : String
  /-- A file to be filled in and put beside the generated ones. -/
  entryTemplate : Option String
  /-- The form of the parser's error lines, if it is not the usual one. -/
  errorPattern : Option WrittenPattern
  compiler : Option Compiler
deriving Repr

/-- The values of an argument template's placeholders. -/
structure TemplateValues where
  mainFile : String
  workingDirectory : String
  targetDirectory : String
  grammar : String
deriving Repr

namespace TemplateValues

/-- The placeholders are filled in one after the other, so a value may hold a later one. -/
def expand (values : TemplateValues) (template : String) : String :=
  let text := Text.replace template "\x7bmain_file\x7d" values.mainFile
  let text := Text.replace text "\x7bworking_dir\x7d" values.workingDirectory
  let text := Text.replace text "\x7bruntime_dir\x7d" values.targetDirectory
  Text.replace text "\x7bgrammar\x7d" values.grammar

end TemplateValues

namespace Target

def markStyle (target : Target) : MarkStyle := ⟨target.commentStart, target.commentEnd⟩

/-- The form of the error lines of generated parsers. -/
def reportFormat (target : Target) : ReportFormat :=
  match target.errorPattern with
  | some pattern => ⟨pattern.pattern, ReportFormat.rawColumnOrigin⟩
  | none => .parserMessage

def generates (target : Target) (path : String) : Bool :=
  (Path.extension? path).any fun extension => target.extensions.contains extension

/-- The program that runs a generated parser. -/
def program (target : Target) (workingDirectory : String) : Except StageFailure String :=
  match target.executable with
  | .nativeBinary => .ok (Path.join workingDirectory target.mainFile)
  | .hosted =>
    match target.tool with
    | some tool => .ok tool
    | none =>
      .error (.configuration
        ("Runtime '" ++ target.name ++ "' is hosted but declares no tool"))

end Target

structure Workspace where
  /-- Holds the working folders, one for each grammar and target. -/
  helperDirectory : String
  /-- Holds the files that targets bring along. -/
  targetsDirectory : String
deriving DecidableEq, Repr

namespace Workspace

instance : Inhabited Workspace := ⟨⟨"GrammarLabHelper", "runtimes"⟩⟩

def workingDirectory (workspace : Workspace) (grammar target : String) : String :=
  Path.join (Path.join workspace.helperDirectory grammar) target

def targetDirectory (workspace : Workspace) (target : String) : String :=
  Path.join workspace.targetsDirectory target

end Workspace

structure Generator where
  tool : String
  jar : String
  encoding : String
  listener : Bool
  visitor : Bool
  packageName : Option String
  ignoredLines : IgnoredLines
deriving Repr

namespace Generator

def usualEncoding : String := "utf8"

instance : Inhabited Generator :=
  ⟨⟨"java", "antlr-complete.jar", usualEncoding, true, false, none, IgnoredLines.blankLines⟩⟩

end Generator

end GrammarFlow
