import GrammarFlow.Text.Blank
import GrammarFlow.Text.Letter

/-!
A first look at a grammar's text. Comments, literals, character sets and blocks in braces are
blanked out, line breaks apart, so that every declaration keeps its place and nothing inside them
passes for one. The blocks that are actions are noted on the way: all but those that an `options`,
`tokens` or `channels` introduces.
-/

namespace GrammarFlow.Scan

/-- How many characters a comment up to the end of its line has, the line feed left out. -/
def lineCommentLength (text : List Char) : Nat := (text.takeWhile (· ≠ '\n')).length

/-- How many characters there are up to a closing `*` and `/`, both counted, or in all. -/
def blockCommentLength : List Char → Nat
  | '*' :: '/' :: _ => 2
  | _ :: rest => blockCommentLength rest + 1
  | [] => 0

/-- How many characters there are up to the closing delimiter, it counted, or in all. A backslash
takes the character behind it along. -/
def quotedLength (close : Char) : List Char → Nat
  | [] => 0
  | '\\' :: _ :: rest => quotedLength close rest + 2
  | ['\\'] => 1
  | c :: rest => if c = close then 1 else quotedLength close rest + 1

/-- How many characters a comment or a quoted text at the beginning of a text has; `none` if there
is no such thing. -/
def skipLength? : List Char → Option Nat
  | '/' :: '/' :: rest => some (lineCommentLength rest + 2)
  | '/' :: '*' :: rest => some (blockCommentLength rest + 2)
  | '\'' :: rest => some (quotedLength '\'' rest + 1)
  | '"' :: rest => some (quotedLength '"' rest + 1)
  | _ => none

/-- How many characters there are up to the brace that closes the `depth` open ones, it counted, or
in all. `skip` characters belong to a comment or a quoted text. -/
def blockLength : (depth skip : Nat) → List Char → Nat
  | _, _, [] => 0
  | depth, skip + 1, _ :: rest => blockLength depth skip rest + 1
  | depth, 0, c :: rest =>
    if c = '\x7b' then blockLength (depth + 1) 0 rest + 1
    else if c = '\x7d' then
      if depth ≤ 1 then 1 else blockLength (depth - 1) 0 rest + 1
    else
      match skipLength? (c :: rest) with
      | some length => blockLength depth (length - 1) rest + 1
      | none => blockLength depth 0 rest + 1

/-- What has to be blanked out at the beginning of a text, by its length. -/
inductive Construct where
  | hidden (length : Nat)
  | block (length : Nat)
deriving DecidableEq, Repr

def construct? : List Char → Option Construct
  | '/' :: '/' :: rest => some (.hidden (lineCommentLength rest + 2))
  | '/' :: '*' :: rest => some (.hidden (blockCommentLength rest + 2))
  | '\'' :: rest => some (.hidden (quotedLength '\'' rest + 1))
  | '[' :: rest => some (.hidden (quotedLength ']' rest + 1))
  | '\x7b' :: rest => some (.block (blockLength 1 0 rest + 1))
  | _ => none

/-- Blanks a character out, unless it breaks a line. -/
def blank (c : Char) : Char := if c = '\n' ∨ c = '\r' then c else ' '

def blockKeywords : List String := ["options", "tokens", "channels"]

/-- The word at the end of a text that is given last character first; blanks may follow it. -/
def lastWord (reversed : List Char) : String :=
  String.ofList
    (((reversed.dropWhile Text.isBlank).takeWhile fun c =>
      Text.isAlphanumeric c || c = '_').reverse)

/-- The range of a block's content, given where the block begins, and its text: without its braces,
or up to the end if it is not closed. -/
def contentRange (offset : Nat) (block : List Char) : Nat × Nat :=
  let stop := offset + block.length
  let bodyStop := if block.getLast? = some '\x7d' then stop - 1 else stop
  (offset + 1, max bodyStop (offset + 1))

structure Masked where
  text : List Char
  /-- The ranges of the actions, without their braces. -/
  actions : List (Nat × Nat)
deriving DecidableEq, Repr

/-- Masks a text that follows `before`, which is masked already and given last character first.
`skip` characters still belong to a construct. -/
def maskAfter : (before : List Char) → (offset skip : Nat) → List Char → Masked
  | _, _, _, [] => ⟨[], []⟩
  | before, offset, skip + 1, c :: rest =>
    let masked := maskAfter (blank c :: before) (offset + 1) skip rest
    ⟨blank c :: masked.text, masked.actions⟩
  | before, offset, 0, c :: rest =>
    match construct? (c :: rest) with
    | none =>
      let masked := maskAfter (c :: before) (offset + 1) 0 rest
      ⟨c :: masked.text, masked.actions⟩
    | some (.hidden length) =>
      let masked := maskAfter (blank c :: before) (offset + 1) (length - 1) rest
      ⟨blank c :: masked.text, masked.actions⟩
    | some (.block length) =>
      let masked := maskAfter (blank c :: before) (offset + 1) (length - 1) rest
      let actions :=
        if lastWord before ∈ blockKeywords then []
        else [contentRange offset ((c :: rest).take length)]
      ⟨blank c :: masked.text, actions ++ masked.actions⟩

def mask (text : List Char) : Masked := maskAfter [] 0 0 text

end GrammarFlow.Scan
