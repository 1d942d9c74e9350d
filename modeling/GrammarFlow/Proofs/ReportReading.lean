import GrammarFlow.Proofs.PatternMatching
import GrammarFlow.Transcript.Report

/-! The error lines of generated parsers and of the parser generator, and what is read in them. Both
forms are read back exactly, for every number that fits in a word and every message on one line. -/

namespace GrammarFlow

theorem CharSet.digit_holds_of_isDigit {c : Char} (figure : c.isDigit = true) :
    CharSet.digit.holds c = true := by
  have ascii : c.toNat < 0x80 := by
    simp only [Char.isDigit, Bool.and_eq_true, decide_eq_true_eq, UInt32.le_iff_toNat_le] at figure
    exact Nat.lt_of_le_of_lt figure.2 (by decide)
  rw [holds, Text.isDecimalDigit, if_pos ascii, figure]

theorem readNumber?_toDigits {number : Nat} (fits : number < Text.wordBound) :
    ReportFormat.readNumber? (Nat.toDigits 10 number) = some number := by
  have figures : ∀ c ∈ Nat.toDigits 10 number, c.isDigit = true :=
    fun c member => Nat.isDigit_of_mem_toDigits (by decide) (by decide) member
  have value := Nat.ofDigitChars_ten_toDigits (n := number)
  obtain ⟨first, others, digits⟩ := List.exists_cons_of_ne_nil (Nat.toDigits_ne_nil (n := number) (b := 10))
  rw [digits] at figures value ⊢
  have unsigned : first ≠ '+' := by
    rintro rfl
    exact absurd (figures '+' (by simp)) (by decide)
  have all : (first :: others).all Char.isDigit = true := List.all_eq_true.mpr figures
  simp [ReportFormat.readNumber?, unsigned, value, all, fits]

section Takes
open Pattern
variable {done rest : List Char}

theorem takes_digits (number : Nat) (outside : ∀ c ∈ rest.head?, CharSet.digit.holds c = false) :
    Pattern.digits.Takes done (Nat.toDigits 10 number) rest [] :=
  Takes.greedy Nat.toDigits_ne_nil (fun _ member => CharSet.digit_holds_of_isDigit
    (Nat.isDigit_of_mem_toDigits (by decide) (by decide) member)) outside

theorem takes_message {message : List Char} (nonempty : message ≠ []) (oneLine : '\n' ∉ message) :
    (sequence [.group "message" (.plus true (.one .notLineFeed)), .anchor .textEnd]).Takes done message []
      [⟨"message", done.length, message⟩] := by
  have inside : ∀ c ∈ message, CharSet.notLineFeed.holds c = true := by
    intro c member
    apply (CharSet.holds_notLineFeed c).mpr
    rintro rfl
    exact oneLine member
  have body : (Pattern.plus true (.one .notLineFeed)).Takes done message ([] ++ []) [] :=
    Takes.greedy nonempty inside (by simp)
  have stop : (sequence [.anchor .textEnd]).Takes (done ++ message) [] [] [] :=
    Takes.cons (Takes.anchor rfl) Takes.nil
  simpa using body.group.cons stop

end Takes

namespace ReportFormat

def parserLine (line column : Nat) (message : String) : String :=
  "line " ++ toString line ++ ":" ++ toString column ++ " " ++ message

def severityWord : Severity → String
  | .error => "error"
  | .warning => "warning"

/-- The line in which the generator reports a message about a file, under the number of the message. -/
def generatorLine (severity : Severity) (number : Nat) (file : String) (line column : Nat)
    (message : String) : String :=
  severityWord severity ++ "(" ++ toString number ++ "): " ++ file ++ ":" ++ toString line ++ ":" ++
    toString column ++ ": " ++ message

open Pattern

private theorem find?_parserLine (line column : Nat) {message : String} (nonempty : message ≠ "")
    (oneLine : '\n' ∉ message.toList) :
    ∃ stop lineAt columnAt messageAt, parserMessage.pattern.find? (parserLine line column message).toList =
      some ⟨0, stop, [⟨"message", messageAt, message.toList⟩, ⟨"column", columnAt, Nat.toDigits 10 column⟩,
        ⟨"line", lineAt, Nat.toDigits 10 line⟩]⟩ := by
  have text : message.toList ≠ [] := by simpa using nonempty
  have written : (parserLine line column message).toList = [] ++ ("line ".toList ++ (Nat.toDigits 10 line ++
      (":".toList ++ (Nat.toDigits 10 column ++ (" ".toList ++ message.toList))))) := by
    simp [parserLine, Nat.toList_repr]
  have takes : parserMessage.pattern.Takes [] (parserLine line column message).toList [] _ :=
    written ▸ Takes.cons (Takes.anchor rfl) <|
    Takes.cons (Takes.text "line ") <|
    Takes.cons (Takes.group (takes_digits line (by rintro c ⟨⟩; rfl))) <|
    Takes.cons (Takes.text ":") <|
    Takes.cons (Takes.group (takes_digits column (by rintro c ⟨⟩; rfl))) <|
    Takes.cons (Takes.text " ") (takes_message text oneLine)
  exact ⟨_, _, _, _, find?_of_takes takes⟩

theorem read?_parserLine {line column : Nat} {message : String} (lineFits : line < Text.wordBound)
    (columnFits : column < Text.wordBound) (nonempty : message ≠ "") (oneLine : '\n' ∉ message.toList) :
    parserMessage.read? (parserLine line column message) =
      some ⟨none, some line, some (column + 1), .error, message⟩ := by
  obtain ⟨stop, lineAt, columnAt, messageAt, found⟩ := find?_parserLine line column nonempty oneLine
  have origin : parserMessage.columnOrigin = 0 := rfl
  simp [read?, readRaw?, found, Match.capture?, readNumber?_toDigits lineFits, readNumber?_toDigits columnFits,
    column?, origin]

private theorem severityWord_chars (severity : Severity) :
    (severityWord severity).toList ≠ [] ∧
      ∀ c ∈ (severityWord severity).toList, (CharSet.complement (.single '(')).holds c = true := by
  cases severity <;> exact ⟨by decide, List.all_eq_true.mp (by decide)⟩

private theorem severity_of_word (severity : Severity) :
    (if Text.lowercaseAscii (Text.trim (severityWord severity)) = "warning" then Severity.warning
      else Severity.error) = severity := by
  cases severity <;> decide

/-- A file that a report can be about: its name is not empty and stays on the line, and the colon
behind it is the first one. -/
structure FileName (file : String) : Prop where
  nonempty : file ≠ ""
  noColon : ':' ∉ file.toList
  oneLine : '\n' ∉ file.toList

/-- The file of a report ends at the first colon behind it; shorter names are tried and given up. -/
private theorem takes_file {file : String} (name : FileName file) {others : List Pattern}
    {done more rest : List Char} {gained : List Capture}
    (behind : (sequence (.text ":" :: others)).Takes (done ++ file.toList) more rest gained) :
    (sequence (.group "file" (.plus false (.one .notLineFeed)) :: .text ":" :: others)).Takes done
      (file.toList ++ more) rest (gained ++ [⟨"file", done.length, file.toList⟩]) := by
  refine Takes.lazy (by simpa using name.nonempty) ?_ ?_ behind
  · intro c member
    apply (CharSet.holds_notLineFeed c).mpr
    rintro rfl
    exact name.oneLine member
  · intro front back split _ following
    obtain ⟨c, others, rfl⟩ := List.exists_cons_of_ne_nil following
    apply Refuses.cons
    apply Refuses.text (c := ':') rfl
    intro same
    obtain rfl : c = ':' := Option.some.inj same
    exact name.noColon (by simp [split])

private theorem find?_generatorLine (severity : Severity) (number line column : Nat) {file message : String}
    (name : FileName file) (nonempty : message ≠ "") (oneLine : '\n' ∉ message.toList) :
    ∃ stop kindAt fileAt lineAt columnAt messageAt,
      generatorMessage.pattern.find? (generatorLine severity number file line column message).toList =
        some ⟨0, stop, [⟨"message", messageAt, message.toList⟩, ⟨"column", columnAt, Nat.toDigits 10 column⟩,
          ⟨"line", lineAt, Nat.toDigits 10 line⟩, ⟨"file", fileAt, file.toList⟩,
          ⟨"type", kindAt, (severityWord severity).toList⟩]⟩ := by
  have text : message.toList ≠ [] := by simpa using nonempty
  have kind := severityWord_chars severity
  have written : (generatorLine severity number file line column message).toList =
      [] ++ ((severityWord severity).toList ++ ("(".toList ++ (Nat.toDigits 10 number ++ ("): ".toList ++
        (file.toList ++ (":".toList ++ (Nat.toDigits 10 line ++ (":".toList ++ (Nat.toDigits 10 column ++
          (": ".toList ++ message.toList)))))))))) := by
    simp [generatorLine, Nat.toList_repr]
  have takes : generatorMessage.pattern.Takes [] (generatorLine severity number file line column message).toList
      [] _ :=
    written ▸ Takes.cons (Takes.anchor rfl) <|
    Takes.cons (Takes.group (Takes.greedy kind.1 kind.2 (by rintro c ⟨⟩; rfl))) <|
    Takes.cons (Takes.text "(") <|
    Takes.cons (takes_digits number (by rintro c ⟨⟩; rfl)) <|
    Takes.cons (Takes.text "): ") <|
    takes_file name <|
    Takes.cons (Takes.text ":") <|
    Takes.cons (Takes.group (takes_digits line (by rintro c ⟨⟩; rfl)).optional) <|
    Takes.cons (Takes.text ":") <|
    Takes.cons (Takes.group (takes_digits column (by rintro c ⟨⟩; rfl)).optional) <|
    Takes.cons (Takes.text ": ") (takes_message text oneLine)
  exact ⟨_, _, _, _, _, _, find?_of_takes takes⟩

theorem read?_generatorLine (severity : Severity) (number : Nat) {line column : Nat} {file message : String}
    (lineFits : line < Text.wordBound) (columnFits : column < Text.wordBound) (name : FileName file)
    (nonempty : message ≠ "") (oneLine : '\n' ∉ message.toList) :
    generatorMessage.read? (generatorLine severity number file line column message) =
      some ⟨some file, some line, some (column + 1), severity, message⟩ := by
  obtain ⟨stop, kindAt, fileAt, lineAt, columnAt, messageAt, found⟩ :=
    find?_generatorLine severity number line column name nonempty oneLine
  have origin : generatorMessage.columnOrigin = 0 := rfl
  simp [read?, readRaw?, found, Match.capture?, readNumber?_toDigits lineFits, readNumber?_toDigits columnFits,
    column?, origin, and_assoc, name.nonempty, severity_of_word]

end ReportFormat

end GrammarFlow
