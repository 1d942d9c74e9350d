/-!
Paths as texts. Parts are separated by slashes; empty parts and single dots have no meaning,
except that a relative path may begin with a dot. A path that begins with a slash is absolute and
does not depend on where it is joined.
-/

namespace GrammarFlow.Path

/-- The parts between slashes, empty ones included. -/
def pieces (path : List Char) : List (List Char) :=
  match path with
  | [] => [[]]
  | c :: rest =>
    match c, pieces rest with
    | '/', parts => [] :: parts
    | c, part :: parts => (c :: part) :: parts
    | c, [] => [[c]]

def isAbsolute (path : String) : Bool := path.toList.head? = some '/'

/-- Whether a piece names something; a dot does so only at the beginning. -/
def isComponent (isFirst : Bool) (piece : List Char) : Bool :=
  !piece.isEmpty && (isFirst || piece ≠ ['.'])

/-- The pieces that name something. -/
def components (path : String) : List String :=
  match pieces path.toList with
  | [] => []
  | first :: others =>
    ((if isComponent true first then [first] else []) ++ others.filter (isComponent false)).map
      String.ofList

def join (base path : String) : String :=
  if isAbsolute path || base.isEmpty then path
  else if base.toList.getLast? = some '/' then base ++ path
  else base ++ "/" ++ path

/-- The path without the slashes at its end, unless there is nothing else. -/
def withoutEnd (path : String) : String :=
  match path.toList.reverse.dropWhile (· = '/') with
  | [] => path
  | kept => String.ofList kept.reverse

/-- The last component, if it is a name. -/
def fileName? (path : String) : Option String :=
  match (components path).getLast? with
  | none => none
  | some name => if name = "." ∨ name = ".." then none else some name

def joinPieces : List (List Char) → List Char
  | [] => []
  | [piece] => piece
  | piece :: rest => piece ++ '/' :: joinPieces rest

/-- The pieces up to the last that names something, and that piece. -/
def splitLast (pieces : List (List Char)) : Option (List (List Char) × List Char) :=
  match pieces.reverse.dropWhile fun piece => piece.isEmpty || piece = ['.'] with
  | [] => none
  | piece :: before => some (before.reverse, piece)

/-- The path without its last component. -/
def parent? (path : String) : Option String :=
  let all := pieces path.toList
  let root := if isAbsolute path then "/" else ""
  match splitLast all with
  | none => if all.head? = some ['.'] then some "" else none
  | some (before, _) =>
    match splitLast before with
    | some (front, piece) => some (String.ofList (joinPieces (front ++ [piece])))
    | none => some (if before.head? = some ['.'] then "." else root)

/-- A file name cut at its last dot, unless it begins with that dot or is `..`. -/
def splitExtension (name : String) : String × Option String :=
  let chars := name.toList
  let behind := (chars.reverse.takeWhile (· ≠ '.')).reverse
  let before := chars.take (chars.length - behind.length - 1)
  if name = ".." || behind.length = chars.length || before.isEmpty then (name, none)
  else (String.ofList before, some (String.ofList behind))

def stem? (path : String) : Option String :=
  (fileName? path).map fun name => (splitExtension name).1

def extension? (path : String) : Option String :=
  (fileName? path).bind fun name => (splitExtension name).2

/-- The file name, or the whole path where there is none. -/
def shownName (path : String) : String := (fileName? path).getD path

/-- Order by components. -/
def before (a b : String) : Bool := components a < components b

end GrammarFlow.Path
