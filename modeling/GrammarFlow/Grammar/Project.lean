import GrammarFlow.Files.Store
import GrammarFlow.Text.Source

/-!
The grammar files a workflow starts from. A project is named after its first file, so that
`ExprLexer.g4` and `ExprParser.g4` both name the grammar `Expr`.
-/

namespace GrammarFlow

structure Project where
  name : String
  sources : List Source
  /-- Where the files were read from. -/
  directory : Option String
deriving DecidableEq, Repr, Inhabited

namespace Project

/-- A name without the given ending, unless it is nothing else. -/
def withoutEnding? (ending name : String) : Option String :=
  let base := name.toList.take (name.length - ending.length)
  if !base.isEmpty && base ++ ending.toList = name.toList then some (String.ofList base) else none

/-- A lexer or parser file is named after the grammar it belongs to. -/
def grammarName (fileName : String) : String :=
  let stem := (Path.stem? fileName).getD ""
  ((withoutEnding? "Lexer" stem).or (withoutEnding? "Parser" stem)).getD stem

def ofSources (sources : List Source) : Project where
  name := match sources with
    | [] => ""
    | first :: _ => grammarName first.name
  sources := sources
  directory := none

/-- Reads a project from its files. -/
def load (store : FileStore) (paths : List String) : Except FileError Project := do
  let sources ← paths.mapM fun path => do
    return ⟨Path.shownName path, ← store.readText path⟩
  return { ofSources sources with directory := paths.head?.bind Path.parent? }

def source? (project : Project) (name : String) : Option Source :=
  project.sources.find? (·.name = name)

end Project

end GrammarFlow
