import GrammarFlow.Settings.Value
import GrammarFlow.Target.Settings

/-!
The meaning of settings: targets, the generator and the workspace. Fields without a usual value
have to be there, and fields of other names are passed over.
-/

namespace GrammarFlow.Settings

/-- Readers of values; `none` if a value has not the right form. -/
abbrev Reader (α : Type) := Value → Option α

/-- The fields of a table. A list gives its items to the known fields in their order. -/
def fields (reading : Reading) (known : List String) : Reader (List (String × Value))
  | .table entries => some entries
  | .list items =>
    if items.length ≤ known.length || reading.allowsSurplus then some (known.zip items) else none
  | _ => none

/-- A field that has to be there. -/
def required {α : Type} (read : Reader α) (fields : List (String × Value)) (name : String) :
    Option α :=
  (fields.lookup name).bind read

/-- A field that has a usual value. -/
def orElse {α : Type} (usual : α) (read : Reader α) (fields : List (String × Value))
    (name : String) : Option α :=
  match fields.lookup name with
  | some value => read value
  | none => some usual

/-- A value that may be absent. -/
def optional {α : Type} (read : Reader α) : Reader (Option α)
  | .null => some none
  | value => (read value).map some

def listOf {α : Type} (read : Reader α) : Reader (List α)
  | .list items => items.mapM read
  | _ => none

/-- A table of values of one kind, by name. -/
def tableOf {α : Type} (read : Reader α) : Reader (List (String × α))
  | .table entries => do
    let found ← entries.mapM fun (name, value) => (read value).map (name, ·)
    return found.mergeSort fun a b => a.1 ≤ b.1
  | _ => none

/-- One of several named choices, given by its name or as the only name in a table. -/
def choice {α : Type} (reading : Reading) (choices : List (String × α)) : Reader α
  | .text word => (choices.find? fun (name, _) => reading.chooses word name).map (·.2)
  | .table [(word, value)] =>
    if reading.besideChoice value then
      (choices.find? fun (name, _) => reading.chooses word name).map (·.2)
    else none
  | _ => none

variable (reading : Reading)

def linePattern : Reader WrittenPattern := fun value => do
  (WrittenPattern.ofString (← reading.text? value)).toOption

def ignoredLines : Reader IgnoredLines := listOf (linePattern reading)

def executable : Reader Executable :=
  choice reading (Executable.all.map fun kind => (kind.name, kind))

def predictionMode : Reader PredictionMode :=
  choice reading (PredictionMode.all.map fun mode => (mode.name, mode))

def compiler : Reader Compiler := fun value => do
  let all ← fields reading
    ["tool", "arguments", "message_pattern", "column_origin", "ignored_lines"] value
  return {
    tool := ← required reading.text? all "tool"
    arguments := ← orElse [] (listOf reading.text?) all "arguments"
    messagePattern := ← required (linePattern reading) all "message_pattern"
    columnOrigin := ← orElse Compiler.usualColumnOrigin reading.count? all "column_origin"
    ignoredLines := ← orElse [] (ignoredLines reading) all "ignored_lines" }

def target : Reader Target := fun value => do
  let all ← fields reading
    ["id", "name", "executable", "tool", "main_file", "environment", "ignored_lines", "arguments",
     "language", "extensions", "comment_start", "comment_end", "entry_template", "error_pattern",
     "compiler"] value
  let usual : MarkStyle := default
  return {
    id := ← orElse "" reading.text? all "id"
    name := ← required reading.text? all "name"
    executable := ← required (executable reading) all "executable"
    tool := ← orElse none (optional reading.text?) all "tool"
    mainFile := ← required reading.text? all "main_file"
    environment := ← orElse [] (tableOf reading.text?) all "environment"
    ignoredLines := ← orElse [] (ignoredLines reading) all "ignored_lines"
    arguments := ← orElse [] (listOf reading.text?) all "arguments"
    language := ← required reading.text? all "language"
    extensions := ← orElse [] (listOf reading.text?) all "extensions"
    commentStart := ← orElse usual.opening reading.text? all "comment_start"
    commentEnd := ← orElse usual.closing reading.text? all "comment_end"
    entryTemplate := ← orElse none (optional reading.text?) all "entry_template"
    errorPattern := ← orElse none (optional (linePattern reading)) all "error_pattern"
    compiler := ← orElse none (optional (compiler reading)) all "compiler" }

def workspace : Reader Workspace := fun value => do
  let all ← fields reading ["helper_directory", "runtimes_directory"] value
  return {
    helperDirectory := ← required reading.text? all "helper_directory"
    targetsDirectory := ← required reading.text? all "runtimes_directory" }

def generator : Reader Generator := fun value => do
  let all ← fields reading
    ["tool", "jar", "encoding", "listener", "visitor", "package", "ignored_lines"] value
  return {
    tool := ← required reading.text? all "tool"
    jar := ← required reading.text? all "jar"
    encoding := ← orElse Generator.usualEncoding reading.text? all "encoding"
    listener := ← orElse true reading.switch? all "listener"
    visitor := ← orElse false reading.switch? all "visitor"
    packageName := ← orElse none (optional reading.text?) all "package"
    ignoredLines := ← orElse [] (ignoredLines reading) all "ignored_lines" }

end GrammarFlow.Settings
