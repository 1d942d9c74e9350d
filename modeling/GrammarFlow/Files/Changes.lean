import GrammarFlow.Files.Store

/-!
What has to be done to a file system to turn one tree into another. Files whose content stays are
left alone.
-/

namespace GrammarFlow

inductive Change where
  | makeFolder (path : String)
  | writeFile (path : String) (content : List UInt8)
  | remove (path : String)
deriving DecidableEq, Repr

namespace Entry

def entriesOf : Option Entry → List (String × Entry)
  | some (folder entries) => entries
  | _ => []

/-- Entries that are gone. -/
def removals (path : String) (before after : List (String × Entry)) : List Change :=
  (before.filter fun (name, _) => !after.any (·.1 = name)).map fun (name, _) =>
    .remove (Path.join path name)

mutual

/-- The changes that make an entry out of what was at its path before. -/
def changes (path : String) (before : Option Entry) : Entry → List Change
  | file content _ =>
    match before with
    | some (file old _) => if old = content then [] else [.writeFile path content]
    | some (folder _) => [.remove path, .writeFile path content]
    | none => [.writeFile path content]
  | folder entries =>
    let fresh : List Change :=
      match before with
      | some (folder _) => []
      | some (file ..) => [.remove path, .makeFolder path]
      | none => [.makeFolder path]
    fresh ++ removals path (entriesOf before) entries ++
      entryChanges path (entriesOf before) entries

def entryChanges (path : String) (before : List (String × Entry)) :
    List (String × Entry) → List Change
  | [] => []
  | (name, entry) :: entries =>
    changes (Path.join path name) (before.lookup name) entry ++ entryChanges path before entries

end

end Entry

/-- The changes from one store to another. -/
def FileStore.changes (before after : FileStore) : List Change :=
  after.root.changes "/" (some before.root)

end GrammarFlow
