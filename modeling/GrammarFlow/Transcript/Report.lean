import GrammarFlow.Diagnosis
import GrammarFlow.Pattern.Match
import GrammarFlow.Pattern.Read
import GrammarFlow.Text.Arithmetic

/-!
The lines in which tools report problems. Each tool has its own form, given by a pattern with
named groups: `line` and `message`, and where the tool prints them `column`, `file` and `type`.
Columns are counted from an origin of the tool's own.
-/

namespace GrammarFlow

structure Report where
  file : Option String
  line : Option Nat
  /-- Counted from 1, whatever the tool's origin is. -/
  column : Option Nat
  severity : Severity
  message : String
deriving DecidableEq, Repr

structure ReportFormat where
  pattern : Pattern
  columnOrigin : Nat
deriving Repr

namespace ReportFormat

/-- Generated parsers and the parser generator count columns from 0. -/
def rawColumnOrigin : Nat := 0

/-- `line 3:5 message`, as generated parsers write it. -/
def parserMessage : ReportFormat where
  pattern := .sequence [.anchor .textStart, .text "line ", .group "line" .digits, .text ":",
    .group "column" .digits, .text " ", .group "message" (.plus true (.one .notLineFeed)),
    .anchor .textEnd]
  columnOrigin := rawColumnOrigin

/-- `error(50): File.g4:3:5: message`, as the parser generator writes it. -/
def generatorMessage : ReportFormat where
  pattern := .sequence [.anchor .textStart,
    .group "type" (.plus true (.one (.complement (.single '(')))),
    .text "(", .digits, .text "): ", .group "file" (.plus false (.one .notLineFeed)), .text ":",
    .group "line" (.star true (.one .digit)), .text ":",
    .group "column" (.star true (.one .digit)), .text ": ",
    .group "message" (.plus true (.one .notLineFeed)), .anchor .textEnd]
  columnOrigin := rawColumnOrigin

/-- A number of at most 64 bits in ASCII digits, which may have a plus sign. -/
def readNumber? (text : List Char) : Option Nat :=
  let digits := match text with
    | '+' :: digits => digits
    | digits => digits
  let value := Nat.ofDigitChars 10 digits 0
  if digits.isEmpty || !digits.all Char.isDigit || Text.wordBound ≤ value then none
  else some value

/-- A tool's column as one that counts from 1; a column below the tool's origin has none. -/
def column? (format : ReportFormat) (raw : Nat) : Option Nat :=
  if format.columnOrigin ≤ raw + 1 then some (raw + 1 - format.columnOrigin) else none

def checkedColumn? (format : ReportFormat) (raw : Nat) : OptionT Text.Checked Nat := do
  let column ← Text.plus raw 1
  if format.columnOrigin ≤ column then return column - format.columnOrigin else failure

/-- The problem that a line reports, its column as the tool counts it; `none` if the line is not of this form. -/
def readRaw? (format : ReportFormat) (line : String) : Option Report := do
  let found ← format.pattern.find? line.toList
  let message ← found.capture? "message"
  let number (name : String) : Option Nat := do readNumber? (← found.capture? name).text
  let isWarning := (found.capture? "type").any fun kind =>
    Text.lowercaseAscii (Text.trim (String.ofList kind.text)) = "warning"
  let file := (found.capture? "file").filter fun file => !file.text.isEmpty
  return {
    file := file.map fun file => String.ofList file.text
    line := number "line"
    column := number "column"
    severity := if isWarning then .warning else .error
    message := String.ofList message.text }

def read? (format : ReportFormat) (line : String) : Option Report :=
  (format.readRaw? line).map fun report => { report with column := report.column.bind format.column? }

def checkedRead? (format : ReportFormat) (line : String) : OptionT Text.Checked Report := do
  let report ← (format.readRaw? line).getM
  let column : OptionT Text.Checked Nat := report.column.getM >>= format.checkedColumn?
  return { report with column := ← OptionT.lift column.run }

end ReportFormat

/-- The column that generated parsers print for a column counted from 1. -/
def rawColumn (column : Nat) : Nat := column - 1 + ReportFormat.rawColumnOrigin

end GrammarFlow
