import GrammarFlow.Files.Store
import GrammarFlow.Process.Shell

/-!
The start of a program: which one, with which arguments, where, and with which variables added to
its environment. A program that ends does so with a code or by a signal.
-/

namespace GrammarFlow

structure Invocation where
  program : String
  arguments : List String
  directory : String
  environment : List (String × String)
deriving DecidableEq, Repr

namespace Invocation

/-- A command line that a shell would run as this invocation. -/
def commandLine (invocation : Invocation) : String :=
  Shell.joinWords (invocation.program :: invocation.arguments)

end Invocation

inductive ExitStatus where
  | exited (code : Nat)
  /-- It may be that an image of the program was dumped. -/
  | signaled (signal : Nat) (dumped : Bool)
deriving DecidableEq, Repr

namespace ExitStatus

def succeeded (status : ExitStatus) : Bool := status = exited 0

def signalName? (signal : Nat) : Option String :=
  ["SIGHUP", "SIGINT", "SIGQUIT", "SIGILL", "SIGTRAP", "SIGABRT", "SIGBUS", "SIGFPE", "SIGKILL",
   "SIGUSR1", "SIGSEGV", "SIGUSR2", "SIGPIPE", "SIGALRM", "SIGTERM", "SIGSTKFLT", "SIGCHLD",
   "SIGCONT", "SIGSTOP", "SIGTSTP", "SIGTTIN", "SIGTTOU", "SIGURG", "SIGXCPU", "SIGXFSZ",
   "SIGVTALRM", "SIGPROF", "SIGWINCH", "SIGIO", "SIGPWR", "SIGSYS"][signal - 1]?

def render : ExitStatus → String
  | exited code => "exit status: " ++ toString code
  | signaled signal dumped =>
    let name := match signalName? signal with
      | some name => " (" ++ name ++ ")"
      | none => ""
    "signal: " ++ toString signal ++ name ++ if dumped then " (core dumped)" else ""

end ExitStatus

end GrammarFlow
