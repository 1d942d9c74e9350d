import GrammarFlow.CommandLine.Listing
import Mathlib.Data.List.Basic

/-!
A listing line by line. No text can break a line of it, since line feeds are escaped, so each field of a
diagnosis stands on a line of its own and what the line says is what the diagnosis has in that field.
-/

namespace GrammarFlow

namespace JsonText

def IsFlat : JsonText → Prop
  | null | number _ | text _ => True
  | list _ | object _ => False

theorem lineFeed_not_mem_escapeChar (c : Char) : '\n' ∉ escapeChar c := by
  unfold escapeChar
  split
  case h_8 _ _ _ _ other _ _ =>
    split
    · simp
    · simpa using Ne.symm other
  all_goals decide

theorem lineFeed_not_mem_quote (value : String) : '\n' ∉ quote value := by
  simp [quote, lineFeed_not_mem_escapeChar]

theorem IsFlat.lineFeed_not_mem {value : JsonText} (flat : value.IsFlat) (level : Nat) :
    '\n' ∉ chars level value := by
  cases value with
  | null => simp [chars]
  | number value =>
    intro among
    exact absurd (Nat.isDigit_of_mem_toDigits (by decide) (by decide) among) (by decide)
  | text value => exact lineFeed_not_mem_quote value
  | list | object => exact flat.elim

def fieldLine (field : String × JsonText) : List Char :=
  List.replicate 4 ' ' ++ quote field.1 ++ ':' :: ' ' :: chars 2 field.2

def fieldLines (line : List Char) : List (String × JsonText) → List (List Char)
  | [] => [line]
  | field :: fields => (line ++ [',']) :: fieldLines (fieldLine field) fields

theorem lineFeed_not_mem_fieldLine {field : String × JsonText} (flat : field.2.IsFlat) :
    '\n' ∉ fieldLine field := by
  simp [fieldLine, lineFeed_not_mem_quote, flat.lineFeed_not_mem]

theorem splitOn_fieldChars {fields : List (String × JsonText)} (flat : ∀ field ∈ fields, field.2.IsFlat)
    {line : List Char} (whole : '\n' ∉ line) (rest : List Char) :
    (line ++ fieldChars 2 fields ++ '\n' :: rest).splitOn '\n' = fieldLines line fields ++ rest.splitOn '\n' := by
  induction fields generalizing line with
  | nil => simpa [fieldChars, fieldLines] using List.splitOn_append_cons_self_of_not_mem whole rest
  | cons field fields ih =>
    obtain ⟨first, others⟩ := List.forall_mem_cons.1 flat
    have ended : '\n' ∉ line ++ [','] := by simp [whole]
    calc (line ++ fieldChars 2 (field :: fields) ++ '\n' :: rest).splitOn '\n'
        = ((line ++ [',']) ++ '\n' :: (fieldLine field ++ fieldChars 2 fields ++ '\n' :: rest)).splitOn '\n' := by
          simp [fieldChars, fieldLine, newLine]
      _ = (line ++ [',']) :: (fieldLine field ++ fieldChars 2 fields ++ '\n' :: rest).splitOn '\n' :=
          List.splitOn_append_cons_self_of_not_mem ended _
      _ = fieldLines line (field :: fields) ++ rest.splitOn '\n' := by
          rw [ih others (lineFeed_not_mem_fieldLine first)]
          rfl

theorem splitOn_object {field : String × JsonText} {fields : List (String × JsonText)}
    (flat : ∀ given ∈ field :: fields, given.2.IsFlat) (rest : List Char) :
    ("  ".toList ++ chars 1 (.object (field :: fields)) ++ rest).splitOn '\n' =
      "  \x7b".toList :: fieldLines (fieldLine field) fields ++ ("  \x7d".toList ++ rest).splitOn '\n' := by
  obtain ⟨first, others⟩ := List.forall_mem_cons.1 flat
  calc ("  ".toList ++ chars 1 (.object (field :: fields)) ++ rest).splitOn '\n'
      = ("  \x7b".toList ++ '\n' ::
          (fieldLine field ++ fieldChars 2 fields ++ '\n' :: ("  \x7d".toList ++ rest))).splitOn '\n' := by
        simp [chars, fieldLine, newLine]
    _ = "  \x7b".toList ::
          (fieldLine field ++ fieldChars 2 fields ++ '\n' :: ("  \x7d".toList ++ rest)).splitOn '\n' :=
        List.splitOn_append_cons_self_of_not_mem (by decide) _
    _ = _ := by
        rw [splitOn_fieldChars others (lineFeed_not_mem_fieldLine first)]
        rfl

end JsonText

namespace JsonText

def Plain (name : String) : Prop := '"' ∉ name.toList ∧ name.toList.flatMap escapeChar = name.toList

instance (name : String) : Decidable (Plain name) := inferInstanceAs (Decidable (_ ∧ _))

/-- A line tells the name of its field and the text of its value. -/
theorem fieldLine_inj {name other : String} {value given : JsonText} {rest tail : List Char}
    (plain : Plain name) (plainToo : Plain other)
    (same : fieldLine (name, value) ++ rest = fieldLine (other, given) ++ tail) :
    name = other ∧ chars 2 value ++ rest = chars 2 given ++ tail := by
  have behind : name.toList ++ '"' :: (':' :: ' ' :: chars 2 value ++ rest) =
      other.toList ++ '"' :: (':' :: ' ' :: chars 2 given ++ tail) := by
    simpa [fieldLine, quote, plain.2, plainToo.2] using same
  have cut := congrArg (List.splitOn '"') behind
  rw [List.splitOn_append_cons_self_of_not_mem plain.1, List.splitOn_append_cons_self_of_not_mem plainToo.1] at cut
  obtain rfl := String.toList_inj.1 (List.cons.inj cut).1
  exact ⟨rfl, by simpa using behind⟩

theorem exists_of_mem_fieldLines {line : List Char} {field : String × JsonText}
    {fields : List (String × JsonText)} (shown : line ∈ fieldLines (fieldLine field) fields) :
    ∃ given ∈ field :: fields, ∃ rest, line = fieldLine given ++ rest := by
  induction fields generalizing field with
  | nil => exact ⟨field, List.mem_cons_self, [], by simpa [fieldLines] using shown⟩
  | cons next fields ih =>
    obtain rfl | later := List.mem_cons.1 shown
    · exact ⟨field, List.mem_cons_self, [','], rfl⟩
    · obtain ⟨given, among, line⟩ := ih later
      exact ⟨given, List.mem_cons_of_mem _ among, line⟩

end JsonText

open JsonText

def errorLine : List Char := "    \"severity\": \"Error\",".toList

namespace Diagnosis

theorem fields_flat (found : Diagnosis) : ∀ field ∈ found.fields, field.2.IsFlat := by
  cases span : found.span <;> simp [fields, span, IsFlat]

theorem fields_plain (found : Diagnosis) : ∀ field ∈ found.fields, Plain field.1 := by
  have names : ∀ name ∈ ["stage", "severity", "kind", "message", "file", "line", "column", "end_line",
      "end_column"], Plain name := by decide
  intro field among
  exact names field.1 (List.mem_map_of_mem (f := Prod.fst) among)

/-- Only the field of the severity can say that a diagnosis is an error. -/
theorem errorLine_mem_fieldLines {found : Diagnosis} {field : String × JsonText}
    {fields : List (String × JsonText)} (all : found.fields = field :: fields) :
    errorLine ∈ fieldLines (fieldLine field) fields ↔ found.severity = .error := by
  have shape : errorLine = fieldLine ("severity", .text "Error") ++ [','] := by decide
  constructor
  · intro shown
    obtain ⟨⟨name, value⟩, among, rest, line⟩ := exists_of_mem_fieldLines shown
    rw [← all] at among
    obtain ⟨rfl, worded⟩ := fieldLine_inj (by decide) (found.fields_plain _ among) (shape.symm.trans line)
    obtain rfl : value = .text found.severity.name := by simpa [Diagnosis.fields] using among
    cases severity : found.severity with
    | error => rfl
    | warning => simp [severity, Severity.name, chars, quote, escapeChar] at worded
  · intro error
    have written : errorLine = fieldLine ("severity", .text found.severity.name) ++ [','] := by
      rw [error]
      exact shape
    obtain ⟨rfl, rfl⟩ := List.cons.inj all
    rw [written]
    exact .tail _ (.head _)

/-- The lines of a diagnosis in a listing, with anything behind them. -/
theorem errorLine_mem_splitOn (found : Diagnosis) (rest : List Char) :
    errorLine ∈ ("  ".toList ++ chars 1 (.object found.fields) ++ rest).splitOn '\n' ↔
      found.severity = .error ∨ errorLine ∈ ("  \x7d".toList ++ rest).splitOn '\n' := by
  obtain ⟨field, fields, all⟩ : ∃ field fields, found.fields = field :: fields := ⟨_, _, rfl⟩
  have opening : errorLine ≠ "  \x7b".toList := by decide
  rw [all, splitOn_object (all ▸ found.fields_flat), List.cons_append, List.mem_cons, List.mem_append,
    errorLine_mem_fieldLines all, or_iff_right opening]

end Diagnosis

theorem errorLine_mem_items (diagnoses : List Diagnosis) :
    errorLine ∈ ("  \x7d".toList ++ (itemChars 1 (diagnoses.map fun found => .object found.fields) ++
      "\n]".toList)).splitOn '\n' ↔ ∃ found ∈ diagnoses, found.severity = .error := by
  induction diagnoses with
  | nil => decide
  | cons found diagnoses ih =>
    have closing : errorLine ≠ "  \x7d,".toList := by decide
    have comma : "  \x7d".toList ++ (itemChars 1 ((found :: diagnoses).map fun found => .object found.fields) ++
        "\n]".toList) = "  \x7d,".toList ++ '\n' :: ("  ".toList ++ chars 1 (.object found.fields) ++
          (itemChars 1 (diagnoses.map fun found => .object found.fields) ++ "\n]".toList)) := by
      simp [itemChars, newLine]
    rw [comma, List.splitOn_append_cons_self_of_not_mem (by decide), List.mem_cons, or_iff_right closing,
      found.errorLine_mem_splitOn, ih, List.exists_mem_cons_iff]

/-- A listing has the line of an error if and only if one of its diagnoses is an error. -/
theorem errorLine_mem_listing (diagnoses : List Diagnosis) :
    errorLine ∈ (listing diagnoses).toList.splitOn '\n' ↔ ∃ found ∈ diagnoses, found.severity = .error := by
  cases diagnoses with
  | nil => decide
  | cons found diagnoses =>
    have opening : errorLine ≠ ['['] := by decide
    have items : (listing (found :: diagnoses)).toList = ['['] ++ '\n' ::
        ("  ".toList ++ chars 1 (.object found.fields) ++
          (itemChars 1 (diagnoses.map fun found => .object found.fields) ++ "\n]".toList)) := by
      simp [listing, render, chars, newLine]
    rw [items, List.splitOn_append_cons_self_of_not_mem (by decide), List.mem_cons, or_iff_right opening,
      found.errorLine_mem_splitOn, errorLine_mem_items, List.exists_mem_cons_iff]

end GrammarFlow
