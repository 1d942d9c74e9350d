import GrammarFlow.CommandLine.Session
import GrammarFlow.Files.Changes

/-!
The program. A session works on a picture of the files, taken before it starts; what it has changed
is then done to the files themselves. Tools are not started.
-/

namespace GrammarFlow.Main

/-- The file or folder at a path; what cannot be read is left out. -/
partial def readEntry (path : String) : IO (Option Entry) := do
  let place := System.mkFilePath [path]
  if ← place.isDir then
    let mut entries : List (String × Entry) := []
    for child in ← place.readDir do
      if let some entry ← readEntry (Path.join path child.fileName) then
        entries := entries ++ [(child.fileName, entry)]
    return some (.folder entries)
  else
    try
      return some (.file (← IO.FS.readBinFile path).toList false)
    catch _ => return none

/-- The files that options name. -/
def namedFiles (words : List String) : List String :=
  match CommandLine.Request.ofWords words with
  | .ok (.run options) => options.grammars ++ options.text.toList ++ options.config.toList
  | _ => []

/-- The working folder with all in it, and the named files wherever they are. -/
def readStore (words : List String) : IO FileStore := do
  let current := (← IO.currentDir).toString
  let store ← FileStore.withFolder current <$> readEntry current
  (namedFiles words).foldlM
    (fun store path => do
      if store.holds path then return store
      match ← readEntry path with
      | some (.file content _) => return store.place path content false
      | _ => return store)
    store

def perform : Change → IO Unit
  | .makeFolder path => IO.FS.createDirAll path
  | .writeFile path content => IO.FS.writeBinFile path content.toByteArray
  | .remove path => do
    if ← (System.mkFilePath [path]).isDir then IO.FS.removeDirAll path else IO.FS.removeFile path

end GrammarFlow.Main

def main (words : List String) : IO UInt32 := do
  let before ← GrammarFlow.Main.readStore words
  let session := GrammarFlow.CommandLine.run (fun _ _ => .failed .unsupported) words before
  (before.changes session.files).forM GrammarFlow.Main.perform
  session.out.forM IO.println
  session.err.forM IO.eprintln
  return session.code.toUInt32
