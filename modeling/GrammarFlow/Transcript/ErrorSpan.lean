import GrammarFlow.Marks.Mark
import GrammarFlow.Text.Replace
import GrammarFlow.Text.Span

/-!
A parser reports where a syntax error begins but not how far it goes. Most messages quote the
offending token, and the length of the quoted text gives a better span than one character.
-/

namespace GrammarFlow

/-- What a message tells about the extent of the error. -/
inductive Clue where
  /-- The quoted token begins where the error was reported. -/
  | token (quoted : List Char)
  /-- A token is missing there. -/
  | missing
  /-- The quoted text may begin earlier; it ends behind that place. -/
  | trailingInput (quoted : List Char)
deriving DecidableEq, Repr

namespace Clue

/-- The part of a text before the first occurrence of another. -/
def before? (needle : List Char) : List Char → Option (List Char)
  | [] => if needle.isEmpty then some [] else none
  | c :: rest =>
    if needle.isPrefixOf (c :: rest) then some []
    else (before? needle rest).map (c :: ·)

def ofMessage (message : List Char) : Option Clue :=
  match dropLead "token recognition error at: ".toList message with
  | some quoted => some (token quoted)
  | none =>
    if "missing ".toList.isPrefixOf message then some missing
    else
      match dropLead "extraneous input ".toList message with
      | some behind => (before? " expecting ".toList behind).map token
      | none =>
        match dropLead "mismatched input ".toList message with
        | some behind => (before? " expecting ".toList behind).map token
        | none =>
          (dropLead "no viable alternative at input ".toList message).map trailingInput

end Clue

/-- Takes back the escapes of one character, everywhere in a text. -/
def unescapeOne (letter meant : Char) (text : List Char) : List Char :=
  Text.replaceChars ['\\', letter] [meant] 0 text

/-- A message quotes line feeds, carriage returns and tabs with escapes. -/
def unescape (text : List Char) : List Char :=
  unescapeOne 't' '\t' (unescapeOne 'r' '\r' (unescapeOne 'n' '\n' text))

def unquote (quoted : List Char) : List Char :=
  let inner := match quoted with
    | '\'' :: inner => inner
    | inner => inner
  unescape (if inner.getLast? = some '\'' then inner.dropLast else inner)

/-- The end of the input is quoted as a token without length. -/
def quotedLength (token : List Char) : Nat :=
  if token = "<EOF>".toList then 0 else token.length

/-- How far `input` goes behind `start`: its latest occurrence that begins at or before `start` is
meant. If that ends before `start`, or there is none, the input is taken to begin at `start`. -/
def reach (text : List Char) (start : Nat) (input : List Char) : Nat :=
  let length := quotedLength input
  if text.length < length then length
  else
    let latest := min start (text.length - length)
    let found := (List.range (latest + 1)).reverse.find? fun candidate =>
      (text.drop candidate).take length = input
    match found with
    | none => length
    | some candidate => if start < candidate + length then candidate + length - start else length

/-- The span of the error that a message reports at `start`. -/
def errorSpan (source : Source) (start : Nat) (message : String) : Span :=
  let length := match Clue.ofMessage message.toList with
    | none | some .missing => 1
    | some (.token quoted) => quotedLength (unquote quoted)
    | some (.trailingInput quoted) =>
      let input := unquote quoted
      if quotedLength input = 0 then 0 else reach source.chars start input
  source.clampedSpan start (start + length)

end GrammarFlow
