import GrammarFlow.Settings.Value
import GrammarFlow.Text.Word

/-!
The parts of TOML that hold no others: blanks and comments, keys, strings, numbers, switches and
dates. Readers take a text and give what they read with the rest of it, or nothing if the text does
not begin with such a part.
-/

namespace GrammarFlow.Toml

def isSpace (c : Char) : Bool := c = ' ' || c = '\t'

def skipSpace (text : List Char) : List Char := text.dropWhile isSpace

/-- Characters that may stand in comments and literal strings: all but controls, tabs apart. -/
def isPlain (c : Char) : Bool := c = '\t' || (' ' ≤ c && c ≠ '\x7f')

/-- The rest behind a line break. -/
def readBreak? : List Char → Option (List Char)
  | '\n' :: rest => some rest
  | '\r' :: '\n' :: rest => some rest
  | _ => none

/-- The rest behind a comment; the line break stays. -/
def skipComment : List Char → List Char
  | '#' :: rest => rest.dropWhile isPlain
  | text => text

/-- The rest behind the end of a line, which may hold a comment and may end the text. -/
def readLineEnd? (text : List Char) : Option (List Char) :=
  match skipComment (skipSpace text) with
  | [] => some []
  | text => readBreak? text

/-- The rest behind blanks, comments and line breaks, of which there are at most so many. -/
def skipLines : Nat → List Char → List Char
  | 0, text => text
  | fuel + 1, text =>
    let text := skipComment (skipSpace text)
    match readBreak? text with
    | some rest => skipLines fuel rest
    | none => text

def hexValue (digits : List Char) : Option Nat :=
  digits.foldlM
    (fun value c =>
      let lower := c.toLower
      if c.isDigit then some (value * 16 + (c.toNat - '0'.toNat))
      else if 'a' ≤ lower && lower ≤ 'f' then some (value * 16 + (lower.toNat - 'a'.toNat + 10))
      else none)
    0

/-- A character given by exactly `width` hexadecimal digits. -/
def readCode (width : Nat) (text : List Char) : Option (Char × List Char) := do
  if text.length < width then none
  else
    let code ← hexValue (text.take width)
    if code.isValidChar then some (Char.ofNat code, text.drop width) else none

/-- What stands behind a backslash. -/
def readEscape : List Char → Option (Char × List Char)
  | 'b' :: rest => some ('\x08', rest)
  | 't' :: rest => some ('\t', rest)
  | 'n' :: rest => some ('\n', rest)
  | 'f' :: rest => some ('\x0c', rest)
  | 'r' :: rest => some ('\r', rest)
  | '"' :: rest => some ('"', rest)
  | '\\' :: rest => some ('\\', rest)
  | 'u' :: rest => readCode 4 rest
  | 'U' :: rest => readCode 8 rest
  | _ => none

/-- A string between double quotes, read behind the first. -/
def readBasic : Nat → List Char → List Char → Option (String × List Char)
  | 0, _, _ => none
  | _, _, [] => none
  | fuel + 1, read, c :: rest =>
    if c = '"' then some (String.ofList read.reverse, rest)
    else if c = '\\' then do
      let (escaped, rest) ← readEscape rest
      readBasic fuel (escaped :: read) rest
    else if isPlain c then readBasic fuel (c :: read) rest
    else none

/-- A string between single quotes, read behind the first. -/
def readLiteral (text : List Char) : Option (String × List Char) :=
  match text.dropWhile fun c => isPlain c && c ≠ '\'' with
  | '\'' :: rest => some (String.ofList (text.takeWhile fun c => isPlain c && c ≠ '\''), rest)
  | _ => none

/-- The rest behind blanks and line breaks, of which there are at most so many. -/
def skipBlankLines : Nat → List Char → List Char
  | 0, text => text
  | fuel + 1, text =>
    let text := skipSpace text
    match readBreak? text with
    | some rest => skipBlankLines fuel rest
    | none => text

/-- The rest behind the blanks and line breaks that a backslash at the end of a line takes along.
There has to be a line break right behind the blanks on its own line. -/
def skipContinuation? (text : List Char) : Option (List Char) :=
  (readBreak? (skipSpace text)).map fun rest => skipBlankLines rest.length rest

/-- The end of a string that is closed by three quotes: up to two more may belong to the string.
Gives how many do. -/
def closingQuotes (quote : Char) (text : List Char) : Option (Nat × List Char) :=
  let count := min 5 (text.takeWhile (· = quote)).length
  if 3 ≤ count then some (count - 3, text.drop count) else none

/-- A string over several lines, read behind its opening quotes and the line break there. In a
literal one a backslash is a character like others. -/
def readLong (quote : Char) : Nat → List Char → List Char → Option (String × List Char)
  | 0, _, _ => none
  | _, _, [] => none
  | fuel + 1, read, c :: rest =>
    if c = quote then
      match closingQuotes quote (c :: rest) with
      | some (extra, rest) =>
        some (String.ofList (List.replicate extra quote ++ read).reverse, rest)
      | none => readLong quote fuel (c :: read) rest
    else if c = '\\' && quote = '"' then
      match skipContinuation? rest with
      | some rest => readLong quote fuel read rest
      | none => do
        let (escaped, rest) ← readEscape rest
        readLong quote fuel (escaped :: read) rest
    else
      match readBreak? (c :: rest) with
      | some rest => readLong quote fuel ('\n' :: read) rest
      | none => if isPlain c then readLong quote fuel (c :: read) rest else none

def readLongString (quote : Char) (text : List Char) : Option (String × List Char) :=
  let text := (readBreak? text).getD text
  readLong quote (text.length + 1) [] text

def readString : List Char → Option (String × List Char)
  | '"' :: '"' :: '"' :: rest => readLongString '"' rest
  | '\'' :: '\'' :: '\'' :: rest => readLongString '\'' rest
  | '"' :: rest => readBasic (rest.length + 1) [] rest
  | '\'' :: rest => readLiteral rest
  | _ => none

def isBareKeyChar (c : Char) : Bool := c.isAlphanum || c = '_' || c = '-'

/-- One name of a key: bare, or a string on one line. -/
def readKeyPart (text : List Char) : Option (String × List Char) :=
  match text with
  | '"' :: rest => readBasic (rest.length + 1) [] rest
  | '\'' :: rest => readLiteral rest
  | text =>
    let name := text.takeWhile isBareKeyChar
    if name.isEmpty then none else some (String.ofList name, text.dropWhile isBareKeyChar)

/-- A key: one name or several with dots between them. Blanks around it are passed over. -/
def readKey : Nat → List Char → Option (List String × List Char)
  | 0, _ => none
  | fuel + 1, text => do
    let (name, rest) ← readKeyPart (skipSpace text)
    match skipSpace rest with
    | '.' :: rest => do
      let (names, rest) ← readKey fuel rest
      return (name :: names, rest)
    | rest => return ([name], rest)

/-- Digits of a base, which single underscores may divide; gives them without. -/
def readDigits (isDigit : Char → Bool) : List Char → Option (List Char × List Char)
  | [] => none
  | c :: rest =>
    if isDigit c then
      match rest with
      | '_' :: more =>
        (readDigits isDigit more).map fun (digits, rest) => (c :: digits, rest)
      | rest =>
        match readDigits isDigit rest with
        | some (digits, rest) => some (c :: digits, rest)
        | none => some ([c], rest)
    else none

def valueIn (base : Nat) (digits : List Char) : Nat :=
  digits.foldl (fun value c => value * base + (hexValue [c]).getD 0) 0

def integer? (negative : Bool) (magnitude : Nat) : Option Value :=
  let value : Int := if negative then -magnitude else magnitude
  if -Text.signedBound ≤ value ∧ value < Text.signedBound then some (.integer value) else none

/-- A whole number in base 16, 8 or 2. -/
def readBased (base : Nat) (isDigit : Char → Bool) (text : List Char) :
    Option (Value × List Char) := do
  let (digits, rest) ← readDigits isDigit text
  return (← integer? false (valueIn base digits), rest)

def isHexDigit (c : Char) : Bool := (hexValue [c]).isSome

/-- The power of ten of a number, if there is one. -/
def readExponent (text : List Char) : Option (Option Int × List Char) :=
  match text with
  | 'e' :: rest | 'E' :: rest => do
    let (negative, rest) := match rest with
      | '+' :: rest => (false, rest)
      | '-' :: rest => (true, rest)
      | rest => (false, rest)
    let (digits, rest) ← readDigits Char.isDigit rest
    let value : Int := valueIn 10 digits
    return (some (if negative then -value else value), rest)
  | rest => some (none, rest)

/-- A number behind its sign. Its whole part does not begin with a zero unless it is one. Too large a
number is refused, and one too far below zero is taken for the infinite one. -/
def readDecimal (negative : Bool) (text : List Char) : Option (Value × List Char) := do
  let (whole, rest) ← readDigits Char.isDigit text
  if whole.head? = some '0' && 1 < whole.length then none
  else
    let (places, rest) ← match rest with
      | '.' :: rest => readDigits Char.isDigit rest
      | rest => some ([], rest)
    let (exponent, rest) ← readExponent rest
    if places.isEmpty && exponent.isNone then
      return (← integer? negative (valueIn 10 whole), rest)
    else
      let shift := exponent.getD 0 - places.length
      let digits := valueIn 10 (whole ++ places)
      let tooLarge := if negative then some (.real (.infinite true), rest) else none
      if 400 < shift + (whole ++ places).length && digits ≠ 0 then tooLarge
      else if shift + (whole ++ places).length < -400 then
        return (.real (.finite negative 0 1), rest)
      else
        match Real64.ofDecimal? negative digits (if digits = 0 then 0 else shift) with
        | some value => return (.real value, rest)
        | none => tooLarge

def readNumber (text : List Char) : Option (Value × List Char) :=
  match text with
  | '0' :: 'x' :: rest => readBased 16 isHexDigit rest
  | '0' :: 'o' :: rest => readBased 8 (fun c => '0' ≤ c && c ≤ '7') rest
  | '0' :: 'b' :: rest => readBased 2 (fun c => c = '0' || c = '1') rest
  | '+' :: 'i' :: 'n' :: 'f' :: rest => some (.real (.infinite false), rest)
  | '-' :: 'i' :: 'n' :: 'f' :: rest => some (.real (.infinite true), rest)
  | 'i' :: 'n' :: 'f' :: rest => some (.real (.infinite false), rest)
  | '+' :: 'n' :: 'a' :: 'n' :: rest | '-' :: 'n' :: 'a' :: 'n' :: rest =>
    some (.real .nan, rest)
  | 'n' :: 'a' :: 'n' :: rest => some (.real .nan, rest)
  | '+' :: rest => readDecimal false rest
  | '-' :: rest => readDecimal true rest
  | text => readDecimal false text

/-- A number of exactly `width` digits between two bounds. -/
def readField (width low high : Nat) (text : List Char) : Option (Nat × List Char) :=
  let digits := text.take width
  let value := valueIn 10 digits
  if digits.length = width && digits.all Char.isDigit && low ≤ value && value ≤ high then
    some (value, text.drop width)
  else none

def daysIn (year month : Nat) : Nat :=
  let leap := year % 4 = 0 ∧ (year % 100 ≠ 0 ∨ year % 400 = 0)
  if month = 2 then (if leap then 29 else 28)
  else if [4, 6, 9, 11].contains month then 30
  else 31

def twoDigits (n : Nat) : String := (if n < 10 then "0" else "") ++ toString n

def expect (c : Char) : List Char → Option (List Char)
  | d :: rest => if c = d then some rest else none
  | [] => none

def readDate (text : List Char) : Option (String × List Char) := do
  let (year, rest) ← readField 4 0 9999 text
  let (month, rest) ← readField 2 1 12 (← expect '-' rest)
  let (day, rest) ← readField 2 1 (daysIn year month) (← expect '-' rest)
  return (String.ofList (text.take 4) ++ "-" ++ twoDigits month ++ "-" ++ twoDigits day, rest)

/-- A time of day. Of the digits behind the seconds nine count, less the zeros at their end. -/
def readTime (text : List Char) : Option (String × List Char) := do
  let (hour, rest) ← readField 2 0 23 text
  let (minute, rest) ← readField 2 0 59 (← expect ':' rest)
  let (second, rest) ← readField 2 0 60 (← expect ':' rest)
  let clock := twoDigits hour ++ ":" ++ twoDigits minute ++ ":" ++ twoDigits second
  match rest with
  | '.' :: fraction =>
    let digits := fraction.takeWhile Char.isDigit
    if digits.isEmpty then none
    else
      let kept := ((digits.take 9).reverse.dropWhile (· = '0')).reverse
      let shown := if kept.isEmpty then "" else "." ++ String.ofList kept
      return (clock ++ shown, fraction.dropWhile Char.isDigit)
  | rest => return (clock, rest)

def readOffset (text : List Char) : Option (String × List Char) :=
  match text with
  | 'Z' :: rest | 'z' :: rest => some ("Z", rest)
  | sign :: rest => do
    if sign = '+' || sign = '-' then
      let (hour, rest) ← readField 2 0 23 rest
      let (minute, rest) ← readField 2 0 59 (← expect ':' rest)
      let shown := if hour + minute = 0 then '+' else sign
      return (shown.toString ++ twoDigits hour ++ ":" ++ twoDigits minute, rest)
    else return ("", text)
  | [] => some ("", [])

/-- A date, a time, or both; its value is its text in a fixed form. -/
def readMoment (text : List Char) : Option (Value × List Char) :=
  match readDate text with
  | none => (readTime text).map fun (time, rest) => (.text time, rest)
  | some (date, rest) =>
    match rest with
    | separator :: behind =>
      if separator = 'T' || separator = 't' || separator = ' ' then
        match readTime behind with
        | some (time, rest) => do
          let (offset, rest) ← readOffset rest
          return (.text (date ++ "T" ++ time ++ offset), rest)
        | none => if separator = ' ' then some (.text date, rest) else none
      else some (.text date, rest)
    | [] => some (.text date, [])

/-- Whether a text begins like a date or a time of day. -/
def isMoment (text : List Char) : Bool :=
  let digits := (text.takeWhile Char.isDigit).length
  (digits = 4 && (text.drop 4).head? = some '-') || (digits = 2 && (text.drop 2).head? = some ':')

def readScalar (text : List Char) : Option (Value × List Char) :=
  match text with
  | '"' :: _ | '\'' :: _ => (readString text).map fun (string, rest) => (.text string, rest)
  | 't' :: 'r' :: 'u' :: 'e' :: rest => some (.switch true, rest)
  | 'f' :: 'a' :: 'l' :: 's' :: 'e' :: rest => some (.switch false, rest)
  | text => if isMoment text then readMoment text else readNumber text

end GrammarFlow.Toml
