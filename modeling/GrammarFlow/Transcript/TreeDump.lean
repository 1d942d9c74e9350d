/-!
The indented dump of a parse tree, one rule or token to a line. A second form puts the dump on one
line, with each line break written as a backslash and an `n`.
-/

namespace GrammarFlow

inductive ParseTree where
  | rule (name : String) (children : List ParseTree)
  | token (text : String)
deriving Repr

namespace TreeDump

/-- Levels are two spaces apart where nothing else is asked for. -/
def usualIndent : Nat := 2

def tokenChars : List Char → List Char
  | [] => []
  | '\'' :: rest => '\\' :: '\'' :: tokenChars rest
  | c :: rest => if c = '\r' ∨ c = '\n' then tokenChars rest else c :: tokenChars rest

mutual

/-- A tree whose first line stands on the given level. -/
def treeChars (indent level : Nat) : ParseTree → List Char
  | .rule name children =>
    let margin := List.replicate (level * indent) ' '
    margin ++ '(' :: name.toList ++ '\n' :: childrenChars indent (level + 1) children
      ++ margin ++ [')']
  | .token text =>
    List.replicate (level * indent) ' ' ++ '\'' :: tokenChars text.toList ++ ['\'']

/-- Trees one below the other, each closed by a line feed. -/
def childrenChars (indent level : Nat) : List ParseTree → List Char
  | [] => []
  | tree :: trees => treeChars indent level tree ++ '\n' :: childrenChars indent level trees

end

def render (indent : Nat) (tree : ParseTree) : String := String.ofList (treeChars indent 0 tree)

def escapeBreaks : List Char → List Char
  | [] => []
  | '\n' :: rest => '\\' :: 'n' :: escapeBreaks rest
  | c :: rest => c :: escapeBreaks rest

/-- Every backslash with an `n` behind it becomes a line feed. -/
def unescapeBreaks : List Char → List Char
  | '\\' :: 'n' :: rest => '\n' :: unescapeBreaks rest
  | c :: rest => c :: unescapeBreaks rest
  | [] => []

/-- The dump as one line. -/
def renderOnLine (indent : Nat) (tree : ParseTree) : String :=
  String.ofList (escapeBreaks (treeChars indent 0 tree))

end TreeDump

end GrammarFlow
