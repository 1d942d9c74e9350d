import GrammarFlow.Files.Path
import GrammarFlow.Text.Utf8

/-!
A tree of files and folders, with the failures a system reports when a path does not lead where it
should. Every step of a path has to be an existing folder; only the last name may be missing.
-/

namespace GrammarFlow

inductive FileError where
  | noEntry
  | permissionDenied
  | fileExists
  | notFolder
  | isFolder
  | invalidText
  /-- An argument of a program holds a NUL. -/
  | embeddedNul
  | nulInPath
  /-- There is no program to wait for. -/
  | noChild
  /-- Programs cannot be run here. -/
  | unsupported
deriving DecidableEq, Repr

def FileError.message : FileError → String
  | .noEntry => "No such file or directory (os error 2)"
  | .permissionDenied => "Permission denied (os error 13)"
  | .fileExists => "File exists (os error 17)"
  | .notFolder => "Not a directory (os error 20)"
  | .isFolder => "Is a directory (os error 21)"
  | .invalidText => "stream did not contain valid UTF-8"
  | .embeddedNul => "nul byte found in provided data"
  | .nulInPath => "file name contained an unexpected NUL byte"
  | .noChild => "No child processes (os error 10)"
  | .unsupported => "Function not implemented (os error 38)"

inductive Entry where
  | file (content : List UInt8) (executable : Bool)
  | folder (entries : List (String × Entry))
deriving Repr

namespace Entry

def isFolder : Entry → Bool
  | folder _ => true
  | file .. => false

def child? (name : String) : Entry → Option Entry
  | folder entries => entries.lookup name
  | file .. => none

/-- The entry that a list of names leads to. -/
def at? : List String → Entry → Option Entry
  | [], entry => some entry
  | name :: names, entry => (entry.child? name).bind (at? names)

def setName (name : String) (entry : Option Entry) (entries : List (String × Entry)) :
    List (String × Entry) :=
  match entry with
  | none => entries.filter (·.1 ≠ name)
  | some entry =>
    if entries.any (·.1 = name) then
      entries.map fun old => if old.1 = name then (name, entry) else old
    else entries ++ [(name, entry)]

/-- Puts an entry where the names lead, or takes it away. Nothing happens if a name on the way is
missing. -/
def put : List String → Option Entry → Entry → Entry
  | [], _, entry => entry
  | [name], value, folder entries => folder (setName name value entries)
  | name :: names, value, folder entries =>
    match entries.lookup name with
    | none => folder entries
    | some child => folder (setName name (some (put names value child)) entries)
  | _, _, file content executable => file content executable

end Entry

/-- All files, and the folder that relative paths start from. -/
structure FileStore where
  root : Entry
  /-- The names that lead to the current folder. -/
  current : List String
deriving Repr

namespace FileStore

def empty : FileStore := ⟨.folder [], []⟩

instance : Inhabited FileStore := ⟨empty⟩

/-- Follows the steps of a path from a place whose names are given last first. -/
def walk (root : Entry) : List String → List String → Except FileError (List String)
  | place, [] => .ok place
  | place, step :: steps =>
    match root.at? place.reverse with
    | none => .error .noEntry
    | some (.file ..) => .error .notFolder
    | some (.folder _) =>
      if step = "." then walk root place steps
      else if step = ".." then walk root place.tail steps
      else walk root (step :: place) steps

/-- The names that a path leads to. Behind a final slash there has to be a folder. -/
def locate (store : FileStore) (path : String) : Except FileError (List String) :=
  let pieces := (Path.pieces path.toList).map String.ofList
  let steps := pieces.filter (· ≠ "")
  let steps := if pieces.getLast? = some "" then steps ++ ["."] else steps
  let origin := if Path.isAbsolute path then [] else store.current.reverse
  if '\x00' ∈ path.toList then .error .nulInPath
  else if path.isEmpty then .error .noEntry
  else (walk store.root origin steps).map List.reverse

def entry (store : FileStore) (path : String) : Except FileError Entry := do
  match store.root.at? (← store.locate path) with
  | some entry => return entry
  | none => throw .noEntry

def holds (store : FileStore) (path : String) : Bool := (store.entry path).isOk

def isFolder (store : FileStore) (path : String) : Bool :=
  match store.entry path with
  | .ok entry => entry.isFolder
  | .error _ => false

def isFile (store : FileStore) (path : String) : Bool :=
  match store.entry path with
  | .ok entry => !entry.isFolder
  | .error _ => false

def readBytes (store : FileStore) (path : String) : Except FileError (List UInt8) := do
  match ← store.entry path with
  | .file content _ => return content
  | .folder _ => throw .isFolder

def readText (store : FileStore) (path : String) : Except FileError String := do
  match Text.Utf8.decode? (← store.readBytes path) with
  | some chars => return String.ofList chars
  | none => throw .invalidText

/-- Writes a file into an existing folder. A file that is already there stays as executable as it
was. -/
def writeBytes (store : FileStore) (path : String) (content : List UInt8) :
    Except FileError FileStore := do
  let place ← store.locate path
  match store.root.at? place with
  | some (.folder _) => throw .isFolder
  | some (.file _ executable) =>
    return { store with root := store.root.put place (some (.file content executable)) }
  | none => return { store with root := store.root.put place (some (.file content false)) }

def writeText (store : FileStore) (path text : String) : Except FileError FileStore :=
  store.writeBytes path (Text.Utf8.encode text.toList)

/-- Makes one folder, whose name may end in slashes although it does not exist yet. -/
def createFolder (store : FileStore) (path : String) : Except FileError FileStore := do
  let place ← store.locate (Path.withoutEnd path)
  match store.root.at? place with
  | some _ => throw .fileExists
  | none => return { store with root := store.root.put place (some (.folder [])) }

/-- Makes the folders of a path that are missing. A path is longer than the one to its parent, and
the empty one needs no folders, so its length is bound enough. -/
def createFoldersWithin : Nat → FileStore → String → Except FileError FileStore
  | 0, store, _ => .ok store
  | depth + 1, store, path =>
    if path.isEmpty then .ok store
    else
      match store.createFolder path with
      | .ok store => .ok store
      | .error .noEntry =>
        match Path.parent? path with
        | none => .error .noEntry
        | some parent => do
          let store ← createFoldersWithin depth store parent
          match store.createFolder path with
          | .ok store => .ok store
          | .error problem => if store.isFolder path then .ok store else .error problem
      | .error problem => if store.isFolder path then .ok store else .error problem

def createFolders (store : FileStore) (path : String) : Except FileError FileStore :=
  createFoldersWithin path.length store path

/-- Takes away a folder with all that it holds. -/
def removeFolder (store : FileStore) (path : String) : Except FileError FileStore := do
  let place ← store.locate path
  match store.root.at? place with
  | none => throw .noEntry
  | some (.file ..) => throw .notFolder
  | some (.folder _) => return { store with root := store.root.put place none }

/-- Takes away whatever a path leads to, if anything. -/
def remove (store : FileStore) (path : String) : FileStore :=
  match store.locate path with
  | .ok place => { store with root := store.root.put place none }
  | .error _ => store

/-- The names in a folder. -/
def names (store : FileStore) (path : String) : Except FileError (List String) := do
  match ← store.entry path with
  | .folder entries => return entries.map (·.1)
  | .file .. => throw .notFolder

/-- A path made absolute from the current folder. -/
def absolute (store : FileStore) (path : String) : String :=
  if Path.isAbsolute path then path
  else Path.join ("/" ++ "/".intercalate store.current) path

/-- Puts a file in place, with the folders it needs. -/
def place (store : FileStore) (path : String) (content : List UInt8) (executable : Bool) :
    FileStore :=
  match (Path.parent? path).map store.createFolders with
  | some (.ok store) =>
    match store.locate path with
    | .ok names => { store with root := store.root.put names (some (.file content executable)) }
    | .error _ => store
  | _ => store

/-- A store that knows nothing but one folder, which is the current one, with the folders it is
in. -/
def withFolder (path : String) (folder : Option Entry) : FileStore :=
  let names := Path.components path
  let bare := (empty.createFolders path).toOption.getD empty
  { root := bare.root.put names folder, current := names }

end FileStore

end GrammarFlow
