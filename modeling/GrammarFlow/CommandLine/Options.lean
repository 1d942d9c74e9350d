import GrammarFlow.Settings.Configuration
import GrammarFlow.Workflow.Run

/-!
The options of the command line. Words are read from left to right: options with their values,
everything else being a grammar file; behind a `--` there are only grammar files. Asking for help or
for the version ends the reading there and then.
-/

namespace GrammarFlow.CommandLine

inductive OptionName where
  | target
  | text
  | root
  | predictionMode
  | endStage
  | config
  | tokenizeOnly
  | json
  | listTargets
  | verbose
  | help
  | version
deriving DecidableEq, Repr

namespace OptionName

def all : List OptionName :=
  [target, text, root, predictionMode, endStage, config, tokenizeOnly, json, listTargets, verbose,
   help, version]

/-- The name behind two dashes. -/
def long : OptionName → String
  | target => "runtime"
  | text => "text"
  | root => "root"
  | predictionMode => "prediction-mode"
  | endStage => "end-stage"
  | config => "config"
  | tokenizeOnly => "tokenize-only"
  | json => "json"
  | listTargets => "list-runtimes"
  | verbose => "verbose"
  | help => "help"
  | version => "version"

/-- The letter behind one dash. -/
def short? : OptionName → Option Char
  | target => some 'r'
  | text => some 't'
  | config => some 'c'
  | verbose => some 'v'
  | help => some 'h'
  | version => some 'V'
  | _ => none

def takesValue : OptionName → Bool
  | target | text | root | predictionMode | endStage | config => true
  | _ => false

def ofLong? (name : String) : Option OptionName := all.find? (·.long = name)

def ofShort? (letter : Char) : Option OptionName := all.find? (·.short? = some letter)

def describe : OptionName → String
  | target => "Runtime id from the configuration [default: java]"
  | text => "File to parse with the generated parser"
  | root => "Parser rule to start from (default: the first declared rule)"
  | predictionMode => "Prediction mode: ll, sll or fastll (default from configuration)"
  | endStage =>
    "Last stage to run: grammar-checked, parser-generated, parser-compiled or text-parsed"
  | config => "Configuration file layered over the defaults"
  | tokenizeOnly => "Only run the lexer on the text"
  | json => "Print diagnoses as JSON instead of streaming results"
  | listTargets => "List configured runtimes"
  | verbose => "Log workflow progress to stderr"
  | help => "Print help"
  | version => "Print version"

end OptionName

inductive UsageError where
  | unknownOption (word : String)
  | missingValue (name : OptionName)
  | unexpectedValue (name : OptionName) (value : String)
  | repeated (name : OptionName)
  | invalidValue (name : OptionName) (value reason : String)
  | emptyFileName
  | missingGrammar
deriving DecidableEq, Repr

def UsageError.message : UsageError → String
  | .unknownOption word => "unexpected argument '" ++ word ++ "' found"
  | .missingValue name =>
    "a value is required for '--" ++ name.long ++ " <" ++ name.long ++ ">' but none was supplied"
  | .unexpectedValue name value =>
    "unexpected value '" ++ value ++ "' for '--" ++ name.long ++ "' found; no more were expected"
  | .repeated name => "the argument '--" ++ name.long ++ "' cannot be used multiple times"
  | .invalidValue name value reason =>
    "invalid value '" ++ value ++ "' for '--" ++ name.long ++ " <" ++ name.long ++ ">': " ++ reason
  | .emptyFileName => "a value is required for '[grammar]...' but none was supplied"
  | .missingGrammar => "the following required arguments were not provided:\n  <grammar>..."

structure Options where
  grammars : List String
  target : String
  text : Option String
  root : Option String
  predictionMode : Option PredictionMode
  endStage : Option Stage
  config : Option String
  tokenizeOnly : Bool
  json : Bool
  listTargets : Bool
  verbose : Bool
deriving DecidableEq, Repr

instance : Inhabited Options :=
  ⟨⟨[], "java", none, none, none, none, none, false, false, false, false⟩⟩

/-- What is asked for. -/
inductive Request where
  | help
  | version
  | run (options : Options)
deriving DecidableEq, Repr

namespace Options

def addGrammar (options : Options) (path : String) : Except UsageError Options :=
  if path.isEmpty then .error .emptyFileName
  else .ok { options with grammars := options.grammars ++ [path] }

def turnOn (options : Options) : OptionName → Options
  | .tokenizeOnly => { options with tokenizeOnly := true }
  | .json => { options with json := true }
  | .listTargets => { options with listTargets := true }
  | .verbose => { options with verbose := true }
  | _ => options

/-- Gives an option its value. A path is never empty. -/
def set (options : Options) (name : OptionName) (value : String) : Except UsageError Options :=
  match name with
  | .target => .ok { options with target := value }
  | .root => .ok { options with root := some value }
  | .text =>
    if value.isEmpty then .error (.missingValue name) else .ok { options with text := some value }
  | .config =>
    if value.isEmpty then .error (.missingValue name)
    else .ok { options with config := some value }
  | .predictionMode =>
    match PredictionMode.ofName? value with
    | some mode => .ok { options with predictionMode := some mode }
    | none => .error (.invalidValue name value (PredictionMode.unknownMessage value))
  | .endStage =>
    match Stage.ofName? value with
    | some stage => .ok { options with endStage := some stage }
    | none => .error (.invalidValue name value (Stage.unknownMessage value))
  | _ => .error (.unexpectedValue name value)

end Options

/-- Options in the making, with the names given so far. -/
structure Reading where
  options : Options
  given : List OptionName
deriving Repr

namespace Reading

def start : Reading := ⟨default, []⟩

/-- No option is given twice. -/
def note (reading : Reading) (name : OptionName) : Except UsageError Reading :=
  if name ∈ reading.given then .error (.repeated name)
  else .ok { reading with given := name :: reading.given }

def turnOn (reading : Reading) (name : OptionName) : Except UsageError Reading := do
  let reading ← reading.note name
  return { reading with options := reading.options.turnOn name }

def set (reading : Reading) (name : OptionName) (value : String) : Except UsageError Reading := do
  let reading ← reading.note name
  return { reading with options := ← reading.options.set name value }

def addGrammar (reading : Reading) (path : String) : Except UsageError Reading := do
  return { reading with options := ← reading.options.addGrammar path }

/-- Grammars are needed for everything but the list of targets. -/
def finish (reading : Reading) : Except UsageError Request :=
  let options := reading.options
  if options.grammars.isEmpty && !options.listTargets then .error .missingGrammar
  else .ok (.run options)

end Reading

/-- What reading one word leads to. -/
inductive WordEnd where
  | next (reading : Reading)
  /-- The value of this option is in the next word. -/
  | awaits (name : OptionName) (reading : Reading)
  | asks (request : Request)

/-- An option without a value. -/
def readSwitch (reading : Reading) (name : OptionName) : Except UsageError WordEnd :=
  match name with
  | .help => .ok (.asks .help)
  | .version => .ok (.asks .version)
  | name => (reading.turnOn name).map .next

/-- A word behind its two dashes: a name, with a value behind an equals sign or without. -/
def readLong (reading : Reading) (word : List Char) : Except UsageError WordEnd :=
  let name := String.ofList (word.takeWhile (· ≠ '='))
  match OptionName.ofLong? name, word.dropWhile (· ≠ '=') with
  | none, _ => .error (.unknownOption ("--" ++ name))
  | some name, [] =>
    if name.takesValue then .ok (.awaits name reading) else readSwitch reading name
  | some name, _ :: value =>
    if name.takesValue then (reading.set name (String.ofList value)).map .next
    else .error (.unexpectedValue name (String.ofList value))

/-- A word behind its one dash: letters, of which the first that takes a value ends the letters. An
equals sign before the value is not part of it. -/
def readShort : Reading → List Char → Except UsageError WordEnd
  | reading, [] => .ok (.next reading)
  | reading, letter :: rest =>
    match OptionName.ofShort? letter with
    | none => .error (.unknownOption (String.ofList ['-', letter]))
    | some name =>
      if name.takesValue then
        match rest with
        | [] => .ok (.awaits name reading)
        | '=' :: value => (reading.set name (String.ofList value)).map .next
        | value => (reading.set name (String.ofList value)).map .next
      else
        match readSwitch reading name with
        | .ok (.next reading) => readShort reading rest
        | stopped => stopped

/-- Whether a word is an option. A single dash is none. -/
def isOption (word : String) : Bool :=
  match word.toList with
  | '-' :: _ :: _ => true
  | _ => false

def readWord (reading : Reading) (word : String) : Except UsageError WordEnd :=
  match word.toList with
  | '-' :: '-' :: name => readLong reading name
  | '-' :: letter :: letters => readShort reading (letter :: letters)
  | _ => (reading.addGrammar word).map .next

def readWords : Reading → List String → Except UsageError Request
  | reading, [] => reading.finish
  | reading, word :: words =>
    if word = "--" then do
      (← words.foldlM Reading.addGrammar reading).finish
    else
      match readWord reading word with
      | .error error => .error error
      | .ok (.asks request) => .ok request
      | .ok (.next reading) => readWords reading words
      | .ok (.awaits name reading) =>
        match words with
        | [] => .error (.missingValue name)
        | value :: words =>
          if isOption value then .error (.missingValue name)
          else
            match reading.set name value with
            | .error error => .error error
            | .ok reading => readWords reading words

/-- Reads the words of a command line. -/
def Request.ofWords (words : List String) : Except UsageError Request :=
  readWords .start words

end GrammarFlow.CommandLine
