import GrammarFlow.Text.Arithmetic
import GrammarFlow.Text.Binary64
import GrammarFlow.Text.Blank

/-!
How long the lexer and the parser took. A duration is written as a clock, `[d.]hh:mm:ss[.f]` with
up to seven digits of a second, or as a number with a unit, such as `1.25ms`. A clock is exact; a
number with a unit is a binary one and its product with the unit is rounded to nanoseconds.
-/

namespace GrammarFlow

structure Duration where
  nanoseconds : Nat
deriving DecidableEq, Repr, Inhabited

namespace Duration

/-- The nanoseconds of a second. -/
def perSecond : Nat := 1000000000

def perMillisecond : Nat := 1000000

def perMicrosecond : Nat := 1000

def seconds (duration : Duration) : Nat := duration.nanoseconds / perSecond

/-- What is left beside the whole seconds. -/
def subsecond (duration : Duration) : Nat := duration.nanoseconds % perSecond

def digitsValue (digits : List Char) : Nat := Nat.ofDigitChars 10 digits 0

def readDigits? (least most : Nat) (text : List Char) : Option Nat :=
  if least ≤ text.length ∧ text.length ≤ most ∧ text.all Char.isDigit then some (digitsValue text)
  else none

/-- The days and the hours of a clock, `hh` or `d.hh`. The days have to fit in 64 bits. -/
def readHours? (text : List Char) : Option (Nat × Nat) :=
  let front := text.takeWhile (· ≠ '.')
  match text.dropWhile (· ≠ '.') with
  | [] => (readDigits? 1 2 front).map (0, ·)
  | _ :: behind => do
    let days ← readDigits? 1 front.length front
    let hours ← readDigits? 1 2 behind
    if days < Text.wordBound then return (days, hours) else none

def fractionDigits : Nat := 7

/-- The nanoseconds of the digits behind the seconds of a clock, each digit a tenth of the one
before. -/
def readFraction? : List Char → Option Nat
  | [] => some 0
  | '.' :: digits => do
    let value ← readDigits? 1 fractionDigits digits
    return value * Nat.pow 10 (fractionDigits - digits.length) * 100
  | _ => none

/-- What a clock shows, the fraction of a second in nanoseconds. -/
structure ClockTime where
  days : Nat
  hours : Nat
  minutes : Nat
  seconds : Nat
  fraction : Nat
deriving DecidableEq, Repr

namespace ClockTime

def wholeSeconds (time : ClockTime) : Nat :=
  ((time.days * 24 + time.hours) * 60 + time.minutes) * 60 + time.seconds

def duration (time : ClockTime) : Duration := ⟨time.wholeSeconds * perSecond + time.fraction⟩

def checkedSeconds (time : ClockTime) : Text.Checked Nat := do
  let hours ← Text.plus (← Text.times time.days 24) time.hours
  let minutes ← Text.plus (← Text.times hours 60) time.minutes
  Text.plus (← Text.times minutes 60) time.seconds

def checkedDuration (time : ClockTime) : Text.Checked Duration := do
  return ⟨(← time.checkedSeconds) * perSecond + time.fraction⟩

end ClockTime

def readTime? (text : List Char) : Option ClockTime :=
  let front := text.takeWhile (· ≠ ':')
  match text.dropWhile (· ≠ ':') with
  | ':' :: m₁ :: m₂ :: ':' :: s₁ :: s₂ :: behind => do
    let (days, hours) ← readHours? front
    let minutes ← readDigits? 2 2 [m₁, m₂]
    let seconds ← readDigits? 2 2 [s₁, s₂]
    let fraction ← readFraction? behind
    if minutes ≤ 59 ∧ seconds ≤ 59 then return ⟨days, hours, minutes, seconds, fraction⟩ else none
  | _ => none

def readClock? (text : List Char) : Option Duration := (readTime? text).map ClockTime.duration

def checkedReadClock? (text : List Char) : OptionT Text.Checked Duration := do
  (← (readTime? text).getM).checkedDuration

/-- The nanoseconds of a unit. -/
def unit? (name : String) : Option Nat :=
  match name with
  | "ns" => some 1
  | "us" | "µs" => some perMicrosecond
  | "ms" => some perMillisecond
  | "s" => some perSecond
  | _ => none

/-- The digits of a number and how many of them stand behind its point. -/
def readDecimal? (text : List Char) : Option (List Char × Nat × List Char) :=
  let whole := text.takeWhile Char.isDigit
  if whole.isEmpty then none
  else
    match text.dropWhile Char.isDigit with
    | '.' :: behind =>
      let places := behind.takeWhile Char.isDigit
      if places.isEmpty then none
      else some (whole ++ places, places.length, behind.dropWhile Char.isDigit)
    | rest => some (whole, 0, rest)

def readSuffixed? (text : List Char) : Option Duration := do
  let (digits, places, rest) ← readDecimal? text
  let unit ← unit? (String.ofList (rest.dropWhile Text.isBlank))
  let (a, b) := Text.binary64 (digitsValue digits) (Nat.pow 10 places)
  let (a, b) := Text.binary64 (a * unit) b
  let nanoseconds := Text.roundHalfUp a b
  if nanoseconds < Text.wordBound then return ⟨nanoseconds⟩ else none

def read? (payload : String) : Option Duration :=
  let text := Text.trimChars payload.toList
  (readClock? text).or (readSuffixed? text)

def checkedRead? (payload : String) : OptionT Text.Checked Duration := do
  let text := Text.trimChars payload.toList
  checkedReadClock? text <|> (readSuffixed? text).getM

/-- Digits behind a decimal point, without the zeros at their end and without the point if none is
left. -/
def renderPlaces (width value : Nat) : String :=
  let digits := Nat.toDigits 10 value
  let filled := List.replicate (width - digits.length) '0' ++ digits
  let kept := Text.trimEndChars (· = '0') filled
  if kept.isEmpty then "" else "." ++ String.ofList kept

/-- The duration in the largest unit that it reaches. -/
def render (duration : Duration) : String :=
  let n := duration.nanoseconds
  if perSecond ≤ n then toString (n / perSecond) ++ renderPlaces 9 (n % perSecond) ++ "s"
  else if perMillisecond ≤ n then
    toString (n / perMillisecond) ++ renderPlaces 6 (n % perMillisecond) ++ "ms"
  else if perMicrosecond ≤ n then
    toString (n / perMicrosecond) ++ renderPlaces 3 (n % perMicrosecond) ++ "µs"
  else toString n ++ "ns"

end Duration

end GrammarFlow
