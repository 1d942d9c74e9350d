import GrammarFlow.Process.Lines
import GrammarFlow.Process.Run

/-!
Programs given as scripts: lists of simple steps with a known effect on the files. A system made
of such programs stands in for a real one wherever a workflow has to run without starting
anything.
-/

namespace GrammarFlow

inductive ScriptStep where
  | write (stream : Stream) (content : List UInt8)
  | writeFile (path : String) (content : List UInt8)
  /-- Copies a file to standard output. -/
  | showFile (path : String)
  /-- Writes each argument on a line. -/
  | showArguments
  /-- Writes a variable of the environment on a line. -/
  | showVariable (name : String)
  | removeFolder
  | exit (code : Nat)
  | kill (signal : Nat)
  | wait
deriving Repr

abbrev Script := List ScriptStep

structure ScriptRun where
  files : FileStore
  out : List UInt8
  err : List UInt8
  status : ExitStatus

namespace ScriptRun

def print (run : ScriptRun) (content : List UInt8) : ScriptRun :=
  { run with out := run.out ++ content }

def printLine (run : ScriptRun) (text : String) : ScriptRun :=
  run.print (Text.Utf8.encode (text.toList ++ ['\n']))

end ScriptRun

namespace Script

/-- Executes the steps up to the end or the first that ends the program. -/
def execute (invocation : Invocation) : Script → ScriptRun → ScriptRun
  | [], run => run
  | .exit code :: _, run => { run with status := .exited (code % 256) }
  | .kill signal :: _, run => { run with status := .signaled signal false }
  | step :: rest, run =>
    execute invocation rest <|
      match step with
      | .write .out content => run.print content
      | .write .err content => { run with err := run.err ++ content }
      | .writeFile path content =>
        match run.files.writeBytes path content with
        | .ok files => { run with files }
        | .error _ => run
      | .showFile path =>
        match run.files.readBytes path with
        | .ok content => run.print content
        | .error _ => run
      | .showArguments => invocation.arguments.foldl ScriptRun.printLine run
      | .showVariable name => run.printLine ((invocation.environment.lookup name).getD "")
      | .removeFolder =>
        { run with
          files := { run.files with root := run.files.root.put run.files.current none } }
      | _ => run

end Script

/-- A script and the place of its program, as the names that lead there. -/
structure Tool where
  place : List String
  script : Script

/-- The place of a program: one that is named by a path is looked for from the working folder, any
other in the given folders. -/
def findProgram (files : FileStore) (folders : List String) (program : String) :
    Except FileError (List String) :=
  let check (path : String) : Except FileError (List String) := do
    match ← files.entry path with
    | .folder _ => throw .permissionDenied
    | .file _ executable =>
      if executable then files.locate path else throw .permissionDenied
  if program.isEmpty then .error .noEntry
  else if program.toList.contains '/' then check program
  else
    folders.foldr
      (fun folder otherwise =>
        match check (Path.join folder program), otherwise with
        | .ok place, _ | .error _, .ok place => .ok place
        | .error .permissionDenied, .error _ => .error .permissionDenied
        | .error _, .error error => .error error)
      (.error .noEntry)

/-- A system that knows the given tools. Programs without a path are looked for in `folders`; an
executable that is none of the tools ends at once. -/
def scriptedSystem (tools : List Tool) (folders : List String) : System :=
  fun invocation files =>
    let texts := invocation.program :: invocation.directory :: invocation.arguments ++
      invocation.environment.flatMap fun (name, value) => [name, value]
    if texts.any fun text => '\x00' ∈ text.toList then .failed .embeddedNul
    else
      let started : Except FileError (FileStore × Script) := do
        let directory ← files.locate invocation.directory
        match files.root.at? directory with
        | none => throw .noEntry
        | some (.file ..) => throw .notFolder
        | some (.folder _) =>
          let inside := { files with current := directory }
          let place ← findProgram inside folders invocation.program
          let script := (tools.find? (·.place = place)).map Tool.script
          return (inside, script.getD [])
      match started with
      | .error error => .failed error
      | .ok (inside, script) =>
        let run := script.execute invocation ⟨inside, [], [], .exited 0⟩
        let lines (stream : Stream) (bytes : List UInt8) : List Signal :=
          (outputLines bytes).map (Signal.line stream)
        .ran (lines .out run.out ++ lines .err run.err) run.status
          { run.files with current := files.current } false

end GrammarFlow
