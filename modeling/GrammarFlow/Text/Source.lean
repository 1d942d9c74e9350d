import GrammarFlow.Text.Arithmetic
import GrammarFlow.Text.Utf8

/-!
A source is a named text. Places in it are offsets, which count characters from 0, or positions,
a line and a column that both count from 1. The lines are found by their starts: offset 0 and
every offset just past a line terminator, which is CR LF, CR, LF, or the line or the paragraph
separator.

The functions whose names begin with `checked` compute in 64 bits. Those of the same names without it compute
without a bound.
-/

namespace GrammarFlow

structure Source where
  name : String
  text : String
deriving DecidableEq, Repr, Inhabited

structure Position where
  line : Nat
  column : Nat
deriving DecidableEq, Repr, Inhabited

namespace Position

def render (position : Position) : String :=
  toString position.line ++ ":" ++ toString position.column

/-- Line first, then column. -/
def Before (a b : Position) : Prop :=
  a.line < b.line ∨ a.line = b.line ∧ a.column < b.column

end Position

def isTerminator (c : Char) : Bool :=
  c = '\n' || c = '\r' || c = '\u2028' || c = '\u2029'

/-- The line starts in a text that begins at `offset`, its own first line left out. -/
def lineStartsAfter : Nat → List Char → List Nat
  | _, [] => []
  | offset, '\r' :: '\n' :: rest => (offset + 2) :: lineStartsAfter (offset + 2) rest
  | offset, c :: rest =>
    if isTerminator c then (offset + 1) :: lineStartsAfter (offset + 1) rest
    else lineStartsAfter (offset + 1) rest

/-- What was asked of a source although it has no such place. -/
inductive Violation where
  | spanOutside (source : Source) (start length : Nat)
  | lineOutside (source : Source) (line : Nat)
  | columnBelowFirst (column : Nat)
deriving DecidableEq, Repr

namespace Source

def chars (source : Source) : List Char := source.text.toList

def length (source : Source) : Nat := source.chars.length

def isEmpty (source : Source) : Bool := source.length = 0

def lineStarts (source : Source) : List Nat := 0 :: lineStartsAfter 0 source.chars

def lineCount (source : Source) : Nat := source.lineStarts.length

/-- The position of an offset; one past the end of the text lies on the last line. -/
def positionAt (source : Source) (offset : Nat) : Position :=
  let reached := source.lineStarts.takeWhile (· ≤ offset)
  ⟨reached.length, offset - reached.getLastD 0 + 1⟩

def checkedPositionAt (source : Source) (offset : Nat) : Text.Checked Position := do
  let reached := source.lineStarts.takeWhile (· ≤ offset)
  return ⟨reached.length, ← Text.plus (offset - reached.getLastD 0) 1⟩

/-- The offset of a position that addresses a character of its line, terminator included, or the
end of the text. -/
def offsetAt? (source : Source) (position : Position) : Option Nat :=
  match position.line, position.column with
  | line + 1, column + 1 =>
    match source.lineStarts[line]? with
    | none => none
    | some start =>
      let offset := start + column
      match source.lineStarts[line + 1]? with
      | some next => if offset < next then some offset else none
      | none => if offset ≤ source.length then some offset else none
  | _, _ => none

def checkedOffsetAt? (source : Source) (position : Position) : OptionT Text.Checked Nat := do
  match position.line, position.column with
  | line + 1, column + 1 =>
    let start ← source.lineStarts[line]?.getM
    let offset ← Text.plus start column
    match source.lineStarts[line + 1]? with
    | some next => if offset < next then return offset else failure
    | none => if offset ≤ source.length then return offset else failure
  | _, _ => failure

/-- The offset of a position on an existing line, however far to the right. The column is added before 1 is taken
away. -/
def checkedOffsetAt (source : Source) (position : Position) : ExceptT Violation Text.Checked Nat := do
  match position.line with
  | 0 => throw (.lineOutside source 0)
  | line + 1 =>
    match source.lineStarts[line]? with
    | none => throw (.lineOutside source (line + 1))
    | some start =>
      match position.column with
      | 0 => throw (.columnBelowFirst 0)
      | column + 1 => return (← Text.plus start (column + 1)) - 1

def isAscii (source : Source) : Bool := source.chars.all fun c => c.toNat < 0x80

/-- Bytes and characters have the same offsets in an ASCII text, so a part of it can be cut out of
its bytes. -/
def sliceBytes (source : Source) (start length : Nat) : List Char :=
  let bytes := Text.Utf8.encode source.chars
  let stop := min (start + length) bytes.length
  ((bytes.take stop).drop (min start stop)).map fun byte => Char.ofNat byte.toNat

def sliceChars (source : Source) (start length : Nat) : List Char :=
  (source.chars.drop start).take length

/-- The characters from `start` on, at most `length` of them. -/
def slice (source : Source) (start length : Nat) : String :=
  String.ofList (if source.isAscii then source.sliceBytes start length
    else source.sliceChars start length)

end Source

def Violation.message : Violation → String
  | .spanOutside source start length =>
    "span " ++ toString start ++ ".." ++ toString (start + length) ++ " exceeds source '" ++
      source.name ++ "' of length " ++ toString source.length
  | .lineOutside source line =>
    "line " ++ toString line ++ " is outside of source '" ++ source.name ++ "' (" ++
      toString source.lineCount ++ " lines)"
  | .columnBelowFirst column => "column " ++ toString column ++ " is below the first column"

end GrammarFlow
