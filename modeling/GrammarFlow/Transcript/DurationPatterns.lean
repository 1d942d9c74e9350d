import GrammarFlow.Transcript.Duration
import GrammarFlow.Transcript.Report

/-!
Durations read with patterns. A pattern takes the digits of any script, and its groups are read as numbers
afterwards, so not everything that has the shape of a duration is one.
-/

namespace GrammarFlow

/-- What a group has matched, if it took part. -/
def Match.shown? (found : Match) (name : String) : Option (List Char) := (found.capture? name).map Capture.text

namespace Duration

/-- The parts of `[d.]hh:mm:ss[.f]`. -/
def clockParts : List Pattern :=
  [.optional true (.sequence [.group "days" .digits, .text "."]),
    .group "hours" (.between true 1 (some 2) (.one .digit)), .text ":",
    .group "minutes" (.between true 2 (some 2) (.one .digit)), .text ":",
    .group "seconds" (.between true 2 (some 2) (.one .digit)),
    .optional true (.sequence [.text ".", .group "fraction" (.between true 1 (some fractionDigits) (.one .digit))])]

/-- The names of the units. -/
def units : List String := ["ns", "us", "µs", "ms", "s"]

/-- The parts of a number with a unit. -/
def suffixParts : List Pattern :=
  [.group "value" (.sequence [.digits, .optional true (.sequence [.text ".", .digits])]),
    .star true (.one .blank),
    .group "unit" (.choices (units.map .text))]

/-- The whole text consists of these parts. -/
def wholly (parts : List Pattern) : Pattern :=
  .sequence (.anchor .textStart :: (parts ++ [.anchor .textEnd]))

example : Pattern.ofString
    ("^(?:(?P<days>\\d+)\\.)?(?P<hours>\\d\x7b1,2\x7d):(?P<minutes>\\d\x7b2\x7d):" ++
      "(?P<seconds>\\d\x7b2\x7d)(?:\\.(?P<fraction>\\d\x7b1,7\x7d))?$") = .ok (wholly clockParts) := rfl

example : Pattern.ofString "^(?P<value>\\d+(?:\\.\\d+)?)\\s*(?P<unit>ns|us|µs|ms|s)$" =
    .ok (wholly suffixParts) := rfl

/-- A part that is left out counts as zero. -/
def number? : Option (List Char) → Option Nat
  | none => some 0
  | some digits => ReportFormat.readNumber? digits

/-- The fraction of a second in steps of 100 nanoseconds: zeros stand for the digits that are not written. -/
def ticks? : Option (List Char) → Option Nat
  | none => some 0
  | some digits => ReportFormat.readNumber? (digits ++ List.replicate (fractionDigits - digits.length) '0')

def timeOf? (found : Match) : Option ClockTime := do
  let days ← number? (found.shown? "days")
  let hours ← number? (found.shown? "hours")
  let minutes ← number? (found.shown? "minutes")
  let seconds ← number? (found.shown? "seconds")
  if 59 < minutes ∨ 59 < seconds then none
  else
    let ticks ← ticks? (found.shown? "fraction")
    return ⟨days, hours, minutes, seconds, ticks * 100⟩

def ofClock? (found : Match) : Option Duration := (timeOf? found).map ClockTime.duration

/-- A number of so many units, rounded as a binary number and then to nanoseconds. -/
def ofDecimal? (digits : List Char) (places unit : Nat) : Option Duration :=
  let (a, b) := Text.binary64 (digitsValue digits) (Nat.pow 10 places)
  let (a, b) := Text.binary64 (a * unit) b
  let nanoseconds := Text.roundHalfUp a b
  if nanoseconds < Text.wordBound then some ⟨nanoseconds⟩ else none

/-- A number whose digits are not all ASCII ones has no value. -/
def ofSuffix? (found : Match) : Option Duration := do
  let value ← found.shown? "value"
  let unit ← (found.shown? "unit").bind (unit? ∘ String.ofList)
  match readDecimal? value with
  | some (digits, places, []) => ofDecimal? digits places unit
  | _ => none

def readMatched? (payload : String) : Option Duration :=
  let text := Text.trimChars payload.toList
  (((wholly clockParts).find? text).bind ofClock?).or (((wholly suffixParts).find? text).bind ofSuffix?)

end Duration

end GrammarFlow
