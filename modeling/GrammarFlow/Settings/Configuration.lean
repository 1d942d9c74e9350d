import GrammarFlow.Files.Store
import GrammarFlow.Settings.Decode
import GrammarFlow.Settings.Layers
import GrammarFlow.Settings.Toml.Document

/-!
The configuration of a run. Built-in settings come first, then files, one on top of the other, and
at last single values. Only what comes out in the end has to be complete and well formed.
-/

namespace GrammarFlow

structure Configuration where
  workspace : Workspace
  generator : Generator
  predictionMode : PredictionMode
  /-- In the order of their ids. -/
  targets : List Target
deriving Repr

inductive ConfigurationError where
  | missingFile (path : String)
  | unreadableFile (path : String) (error : FileError)
  | malformedFile (path : String)
  | malformedPath (path : String)
  /-- A value is missing or has not the right form. -/
  | invalid
deriving DecidableEq, Repr

def ConfigurationError.message : ConfigurationError → String
  | .missingFile path => "configuration file \"" ++ path ++ "\" not found"
  | .unreadableFile path error => "configuration file \"" ++ path ++ "\": " ++ error.message
  | .malformedFile path => "configuration file \"" ++ path ++ "\" is not well formed"
  | .malformedPath path => "malformed setting path '" ++ path ++ "'"
  | .invalid => "a setting is missing or has the wrong form"

namespace Configuration

/-- A configuration file in the working folder is used if it is there. -/
def localFile : String := "grammarlab.toml"

def target? (configuration : Configuration) (id : String) : Option Target :=
  configuration.targets.find? (·.id = id)

def targetIds (configuration : Configuration) : List String := configuration.targets.map Target.id

/-! ### Built-in settings -/

def texts (items : List String) : Value := .list (items.map .text)

def javaOptionLines : List String := ["^Picked up _JAVA_OPTIONS", "^Picked up JAVA_TOOL_OPTIONS"]

def javaTarget : Value := .table
  [("name", .text "Java"), ("language", .text "Java"), ("executable", .text "hosted"),
   ("tool", .text "java"), ("main_file", .text "Main.java"), ("entry_template", .text "Main.java"),
   ("extensions", texts ["java"]),
   ("arguments", texts ["-cp", ".:\x7bruntime_dir\x7d/antlr-runtime.jar", "Main"]),
   ("ignored_lines", texts javaOptionLines),
   ("compiler", .table
     [("tool", .text "javac"),
      ("arguments", texts
        ["-cp", "\x7bruntime_dir\x7d/antlr-runtime.jar", "-encoding", "utf8", "\x7bfiles\x7d"]),
      ("message_pattern", .text
        "^(?P<file>[^:]+\\.java):(?P<line>\\d+): (?P<type>error|warning): (?P<message>.+)$"),
      ("ignored_lines", texts
        ["^\\s*$", "^Picked up _JAVA_OPTIONS", "^Note: ", "^\\d+ (errors?|warnings?)$"])])]

def pythonTarget : Value := .table
  [("name", .text "Python3"), ("language", .text "Python3"), ("executable", .text "hosted"),
   ("tool", .text "python3"), ("main_file", .text "main.py"), ("entry_template", .text "main.py"),
   ("extensions", texts ["py"]), ("arguments", texts ["\x7bmain_file\x7d"])]

def javascriptTarget : Value := .table
  [("name", .text "JavaScript"), ("language", .text "JavaScript"), ("executable", .text "hosted"),
   ("tool", .text "node"), ("main_file", .text "main.js"), ("entry_template", .text "main.js"),
   ("extensions", texts ["js"]), ("arguments", texts ["\x7bmain_file\x7d"]),
   ("ignored_lines", texts ["^\\(node:\\d+\\) ExperimentalWarning"])]

def goTarget : Value := .table
  [("name", .text "Go"), ("language", .text "Go"), ("executable", .text "native-binary"),
   ("main_file", .text "parser"), ("entry_template", .text "main.go"),
   ("extensions", texts ["go"]),
   ("compiler", .table
     [("tool", .text "go"), ("arguments", texts ["build", "-o", "\x7bmain_file\x7d", "."]),
      ("message_pattern", .text
        ("^(?:\\./)?(?P<file>[^:\\s]+\\.go):(?P<line>\\d+):(?P<column>\\d+): " ++
          "(?P<message>.+)$")),
      ("column_origin", .integer 1),
      ("ignored_lines", texts ["^\\s*$", "^# "])])]

/-- The lowest layer. -/
def builtIn : List (String × Value) :=
  [("workspace", .table
     [("helper_directory", .text "GrammarLabHelper"), ("runtimes_directory", .text "runtimes")]),
   ("generator", .table
     [("tool", .text "java"), ("jar", .text "antlr-complete.jar"), ("encoding", .text "utf8"),
      ("listener", .switch true), ("visitor", .switch false),
      ("ignored_lines", texts ("^\\s*$" :: javaOptionLines))]),
   ("parsing", .table [("prediction_mode", .text "ll")]),
   ("runtimes", .table
     [("java", javaTarget), ("python", pythonTarget), ("javascript", javascriptTarget),
      ("go", goTarget)])]

/-! ### Files -/

/-- The file that a path means: the one it leads to or, failing that, the one whose name has the
usual ending, too. -/
def findFile? (files : FileStore) (path : String) : Option String :=
  let path := files.absolute path
  if files.isFile path then some path
  else do
    let longer := Path.join (← Path.parent? path) ((← Path.fileName? path) ++ ".toml")
    if files.isFile longer then some longer else none

/-- The text of a file, damaged characters replaced and a byte order mark left out. -/
def textOf (content : List UInt8) : String :=
  let content := match content with
    | 0xef :: 0xbb :: 0xbf :: rest => rest
    | content => content
  String.ofList (Text.Utf8.decodeLossy content)

/-- The settings in a file. -/
def readFile (files : FileStore) (path : String) :
    Except ConfigurationError (List (String × Value)) :=
  match findFile? files path with
  | none => .error (.missingFile path)
  | some found =>
    match files.readBytes found with
    | .error error => .error (.unreadableFile path error)
    | .ok content =>
      match Toml.read? (textOf content) with
      | some layer => .ok layer
      | none => .error (.malformedFile path)

/-- What settings are made of. -/
structure Layer where
  path : String
  /-- An optional file is passed over if it is not there or cannot be read. -/
  optional : Bool
deriving DecidableEq, Repr

def addFile (files : FileStore) (root : Value) (layer : Layer) :
    Except ConfigurationError Value :=
  match readFile files layer.path with
  | .ok settings => .ok (addLayer root settings)
  | .error (.malformedFile path) => .error (.malformedFile path)
  | .error error => if layer.optional then .ok root else .error error

def addOverride (root : Value) (setting : String × Value) : Except ConfigurationError Value :=
  match ValuePath.ofString? setting.1 with
  | some path => .ok (path.set setting.2 root)
  | none => .error (.malformedPath setting.1)

/-! ### Meaning -/

/-- The configuration that settings describe. -/
def ofValue? (root : Value) : Option Configuration := do
  let all ← Settings.fields .lenient [] root
  let parsing ← Settings.required (Settings.fields .lenient ["prediction_mode"]) all "parsing"
  let targets ← Settings.required (Settings.tableOf (Settings.target .lenient)) all "runtimes"
  return {
    workspace := ← Settings.required (Settings.workspace .lenient) all "workspace"
    generator := ← Settings.required (Settings.generator .lenient) all "generator"
    predictionMode :=
      ← Settings.required (Settings.predictionMode .lenient) parsing "prediction_mode"
    targets := targets.map fun (id, target) => { target with id } }

/-- The configuration made of the built-in settings, files and single values, in this order. -/
def load (files : FileStore) (layers : List Layer) (overrides : List (String × Value)) :
    Except ConfigurationError Configuration := do
  let root ← layers.foldlM (addFile files) (addLayer (.table []) builtIn)
  let root ← overrides.foldlM addOverride root
  match ofValue? root with
  | some configuration => return configuration
  | none => throw .invalid

end Configuration

end GrammarFlow
