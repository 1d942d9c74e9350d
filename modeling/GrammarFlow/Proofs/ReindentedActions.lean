import Mathlib.Data.List.Basic
import GrammarFlow.Proofs.FragmentLookup

/-! Actions that a generator lays out anew: a line of the copy may end otherwise than in the grammar, and each
line behind the first may begin with a margin of its own. Columns count from the end of a line, where the text is
still the same, so a place behind the margin is taken back to the same character. -/

namespace GrammarFlow

def OneLine (text : List Char) : Prop := '\n' ∉ text ∧ '\r' ∉ text

instance (text : List Char) : Decidable (OneLine text) := inferInstanceAs (Decidable (_ ∧ _))

theorem OneLine.append {text rest : List Char} (plain : OneLine text) (plainRest : OneLine rest) :
    OneLine (text ++ rest) := by
  simpa [OneLine, not_or] using ⟨⟨plain.1, plainRest.1⟩, plain.2, plainRest.2⟩

inductive LineBreak where
  | feed
  | returnFeed
deriving DecidableEq

def LineBreak.lead : LineBreak → List Char
  | feed => []
  | returnFeed => ['\r']

def LineBreak.chars (lineBreak : LineBreak) : List Char := lineBreak.lead ++ ['\n']

theorem LineBreak.lineFeed_not_mem_lead (lineBreak : LineBreak) : '\n' ∉ lineBreak.lead := by
  cases lineBreak <;> decide

/-- How a line behind the first comes about in one text: the break in front of it and what it begins with. -/
structure LineStart where
  lineBreak : LineBreak
  margin : List Char

/-- A line that was laid out anew. Only the text behind its margins is the same in both. -/
structure RelaidLine where
  inGrammar : LineStart
  inCopy : LineStart
  kept : List Char

def laterLines (side : RelaidLine → LineStart) (lines : List RelaidLine) : List Char :=
  lines.flatMap fun line => (side line).lineBreak.chars ++ ((side line).margin ++ line.kept)

def layOut (side : RelaidLine → LineStart) (first : List Char) (lines : List RelaidLine) : List Char :=
  first ++ laterLines side lines

def lineStart (side : RelaidLine → LineStart) (first : List Char) (earlier : List RelaidLine) (line : RelaidLine) :
    Nat :=
  (layOut side first earlier).length + (side line).lineBreak.chars.length

/-- Offsets in the copy and in the grammar that stand for one character, or for the end of one line. -/
inductive SamePlace (first : List Char) (lines : List RelaidLine) : (inCopy inGrammar : Nat) → Prop where
  | onFirst {column : Nat} (inside : column ≤ first.length) : SamePlace first lines column column
  | later {earlier later : List RelaidLine} {line : RelaidLine} {column : Nat}
      (parts : lines = earlier ++ line :: later) (inside : column ≤ line.kept.length) :
      SamePlace first lines
        (lineStart RelaidLine.inCopy first earlier line + line.inCopy.margin.length + column)
        (lineStart RelaidLine.inGrammar first earlier line + line.inGrammar.margin.length + column)

theorem lineOffset?_behind (text rest : List Char) :
    lineOffset? (text ++ '\n' :: rest) (text.count '\n' + 1) = some (text.length + 1) := by
  induction text with
  | nil => cases rest <;> simp [lineOffset?]
  | cons c text ih =>
    rw [List.cons_append, lineOffset?]
    by_cases ends : c = '\n'
    · rw [if_pos ends, ends, List.count_cons_self, ih]
      rfl
    · rw [if_neg ends, List.count_cons_of_ne ends, ih]
      rfl

theorem lineLengthAt_line (before : List Char) {text rest : List Char} (oneLine : OneLine text)
    (ended : ∀ c ∈ rest.head?, c = '\n' ∨ c = '\r') :
    lineLengthAt (before ++ (text ++ rest)) before.length = text.length := by
  have goesOn : ∀ c ∈ text, (c ≠ '\n' && c ≠ '\r') = true := by
    intro c member
    have noFeed : c ≠ '\n' := fun same => oneLine.1 (same ▸ member)
    have noReturn : c ≠ '\r' := fun same => oneLine.2 (same ▸ member)
    simp [noFeed, noReturn]
  have stops : rest.takeWhile (fun c => c ≠ '\n' && c ≠ '\r') = [] := by
    cases rest with
    | nil => rfl
    | cons c rest => rcases ended c rfl with rfl | rfl <;> rfl
  rw [lineLengthAt, List.drop_left, List.takeWhile_append_of_pos goesOn, stops, List.append_nil]

section OneText
variable {side : RelaidLine → LineStart} {first : List Char} {lines earlier later : List RelaidLine} {line : RelaidLine}

def RelaidLine.PlainIn (side : RelaidLine → LineStart) (line : RelaidLine) : Prop :=
  OneLine (side line).margin ∧ OneLine line.kept

instance (side : RelaidLine → LineStart) (line : RelaidLine) : Decidable (line.PlainIn side) :=
  inferInstanceAs (Decidable (_ ∧ _))

theorem layOut_append : layOut side first (earlier ++ line :: later) =
    layOut side first earlier ++ (side line).lineBreak.chars ++
      ((side line).margin ++ line.kept ++ laterLines side later) := by
  simp [layOut, laterLines]

theorem lineStart_eq : lineStart side first earlier line =
    (layOut side first earlier ++ (side line).lineBreak.chars).length := by
  rw [lineStart, List.length_append]

theorem ended_laterLines (lines : List RelaidLine) :
    ∀ c ∈ (laterLines side lines).head?, c = '\n' ∨ c = '\r' := by
  cases lines with
  | nil => simp [laterLines]
  | cons line lines =>
    intro c found
    rw [laterLines, List.flatMap_cons, List.append_assoc] at found
    cases shape : (side line).lineBreak with
    | feed =>
      rw [shape] at found
      exact .inl (Option.some.inj found).symm
    | returnFeed =>
      rw [shape] at found
      exact .inr (Option.some.inj found).symm

theorem count_layOut (plainFirst : OneLine first) (plain : ∀ line ∈ lines, line.PlainIn side) :
    (layOut side first lines).count '\n' = lines.length := by
  rw [layOut, List.count_append, List.count_eq_zero.mpr plainFirst.1, Nat.zero_add]
  induction lines with
  | nil => rfl
  | cons line lines ih =>
    obtain ⟨⟨margin, kept⟩, plain⟩ := List.forall_mem_cons.mp plain
    rw [laterLines, List.flatMap_cons, ← laterLines, List.count_append, ih plain, LineBreak.chars, List.count_append,
      List.count_append, List.count_append, List.count_eq_zero.mpr (LineBreak.lineFeed_not_mem_lead _),
      List.count_eq_zero.mpr margin.1, List.count_eq_zero.mpr kept.1, List.count_singleton_self, List.length_cons]
    omega

variable (later line) in
theorem lineOffset?_layOut (plainFirst : OneLine first) (plain : ∀ line ∈ earlier, line.PlainIn side) :
    lineOffset? (layOut side first (earlier ++ line :: later)) (earlier.length + 1) =
      some (lineStart side first earlier line) := by
  let lead := layOut side first earlier ++ (side line).lineBreak.lead
  have text : layOut side first (earlier ++ line :: later) =
      lead ++ '\n' :: ((side line).margin ++ line.kept ++ laterLines side later) := by
    rw [layOut_append, LineBreak.chars]
    simp [lead]
  have feeds : lead.count '\n' = earlier.length := by
    rw [List.count_append, count_layOut plainFirst plain, List.count_eq_zero.mpr (LineBreak.lineFeed_not_mem_lead _),
      Nat.add_zero]
  have width : lead.length + 1 = lineStart side first earlier line := by
    simp only [lead, lineStart, LineBreak.chars, List.length_append, List.length_singleton, Nat.add_assoc]
  rw [text, ← feeds, lineOffset?_behind, width]

variable (first earlier later) in
theorem lineLengthAt_layOut (plain : line.PlainIn side) :
    lineLengthAt (layOut side first (earlier ++ line :: later)) (lineStart side first earlier line) =
      (side line).margin.length + line.kept.length := by
  rw [layOut_append, lineStart_eq, lineLengthAt_line _ (plain.1.append plain.2) (ended_laterLines later),
    List.length_append]

variable (later) in
theorem count_take_layOut (plainFirst : OneLine first) (plain : ∀ line ∈ earlier, line.PlainIn side)
    (plainHere : line.PlainIn side) {column : Nat} (inside : column ≤ (side line).margin.length + line.kept.length) :
    ((layOut side first (earlier ++ line :: later)).take (lineStart side first earlier line + column)).count '\n' =
      earlier.length + 1 := by
  have front : (layOut side first (earlier ++ line :: later)).take (lineStart side first earlier line + column) =
      layOut side first earlier ++ (side line).lineBreak.chars ++ ((side line).margin ++ line.kept).take column := by
    rw [layOut_append, lineStart_eq, List.take_length_add_append,
      List.take_append_of_le_length (by rwa [List.length_append])]
  have none : (((side line).margin ++ line.kept).take column).count '\n' = 0 :=
    List.count_eq_zero.mpr fun member => (plainHere.1.append plainHere.2).1 (List.mem_of_mem_take member)
  rw [front, List.count_append, List.count_append, none, count_layOut plainFirst plain, LineBreak.chars,
    List.count_append, List.count_eq_zero.mpr (LineBreak.lineFeed_not_mem_lead _), List.count_singleton_self]

end OneText

section Aligned
variable {first : List Char} {lines : List RelaidLine}

theorem alignedOffset?_onFirst (plainFirst : OneLine first) {column : Nat} (inside : column ≤ first.length) :
    alignedOffset? (layOut RelaidLine.inCopy first lines) (layOut RelaidLine.inGrammar first lines) column =
      some column := by
  have line : ((layOut RelaidLine.inCopy first lines).take column).count '\n' = 0 := by
    rw [layOut, List.take_append_of_le_length inside]
    exact List.count_eq_zero.mpr fun member => plainFirst.1 (List.mem_of_mem_take member)
  have start : lineOffset? (layOut RelaidLine.inCopy first lines) 0 = some 0 := by
    cases layOut RelaidLine.inCopy first lines <;> rfl
  have length : lineLengthAt (layOut RelaidLine.inGrammar first lines) 0 = first.length :=
    lineLengthAt_line [] plainFirst (ended_laterLines lines)
  simp only [alignedOffset?, line, start, length, Option.getD_some, Nat.sub_zero, Nat.min_eq_left inside]

theorem alignedOffset?_later {earlier later : List RelaidLine} {line : RelaidLine} (plainFirst : OneLine first)
    (plain : ∀ line ∈ earlier, line.PlainIn RelaidLine.inCopy ∧ line.PlainIn RelaidLine.inGrammar)
    (copyHere : line.PlainIn RelaidLine.inCopy) (grammarHere : line.PlainIn RelaidLine.inGrammar)
    {column : Nat} (inside : column ≤ line.kept.length) :
    alignedOffset? (layOut RelaidLine.inCopy first (earlier ++ line :: later))
        (layOut RelaidLine.inGrammar first (earlier ++ line :: later))
        (lineStart RelaidLine.inCopy first earlier line + line.inCopy.margin.length + column) =
      some (lineStart RelaidLine.inGrammar first earlier line + line.inGrammar.margin.length + column) := by
  have copyPlain := fun line member => (plain line member).1
  have grammarPlain := fun line member => (plain line member).2
  have onLine := count_take_layOut later plainFirst copyPlain copyHere (Nat.add_le_add_left inside _)
  have copyStart := lineOffset?_layOut later line plainFirst copyPlain
  have grammarStart := lineOffset?_layOut later line plainFirst grammarPlain
  have copyLength := lineLengthAt_layOut first earlier later copyHere
  have grammarLength := lineLengthAt_layOut first earlier later grammarHere
  rw [← Nat.add_assoc] at onLine
  simp only [alignedOffset?, onLine, copyStart, grammarStart, copyLength, grammarLength, Option.getD_some,
    Option.map_some]
  congr 1
  omega

theorem alignedOffset?_samePlace (plainFirst : OneLine first)
    (plain : ∀ line ∈ lines, line.PlainIn RelaidLine.inCopy ∧ line.PlainIn RelaidLine.inGrammar)
    {inCopy inGrammar : Nat} (same : SamePlace first lines inCopy inGrammar) :
    alignedOffset? (layOut RelaidLine.inCopy first lines) (layOut RelaidLine.inGrammar first lines) inCopy =
      some inGrammar := by
  cases same with
  | onFirst inside => exact alignedOffset?_onFirst plainFirst inside
  | @later earlier later line column parts inside =>
    subst parts
    have here := plain line (by simp)
    have before := fun other (member : other ∈ earlier) => plain other (List.mem_append_left _ member)
    exact alignedOffset?_later plainFirst before here.1 here.2 inside

theorem SamePlace.inCopy_le {inCopy inGrammar : Nat} (same : SamePlace first lines inCopy inGrammar) :
    inCopy ≤ (layOut RelaidLine.inCopy first lines).length := by
  cases same with
  | onFirst inside =>
    rw [layOut, List.length_append]
    exact Nat.le_add_right_of_le inside
  | later parts inside =>
    simp only [parts, layOut_append, lineStart, List.length_append]
    omega

end Aligned

/-- In an action that was laid out anew, a place is taken back to the same place of the grammar, unless a copy in
front of this one reaches there. -/
theorem FragmentMap.grammarSpan?_relaid {file : FragmentMap} {before after : List FragmentCopy}
    {copy : FragmentCopy} {first : List Char} {lines : List RelaidLine} {inCopy inGrammar : Nat}
    (placed : file.fragments = before ++ copy :: after)
    (generated : copy.generated.text.toList = layOut RelaidLine.inCopy first lines)
    (grammar : copy.grammar.text.toList = layOut RelaidLine.inGrammar first lines) (plainFirst : OneLine first)
    (plain : ∀ line ∈ lines, line.PlainIn RelaidLine.inCopy ∧ line.PlainIn RelaidLine.inGrammar)
    (same : SamePlace first lines inCopy inGrammar)
    (free : ∀ other ∈ before, ¬ (other.generated.start ≤ copy.generated.start + inCopy ∧
      copy.generated.start + inCopy ≤ other.generated.stop)) :
    ∃ span, file.grammarSpan? (copy.generated.start + inCopy) = some span ∧ span.source = copy.grammar.source ∧
      span.start = copy.grammar.start + inGrammar ∧ span.length = 0 := by
  have aligned := alignedOffset?_samePlace plainFirst plain same
  have reached : copy.generated.start + inCopy ≤ copy.generated.stop := by
    have inside := same.inCopy_le
    rw [← generated, copy.generated.length_text] at inside
    exact Nat.add_le_add_left inside _
  have bounded : copy.grammar.start + inGrammar ≤ copy.grammar.source.length := by
    have inside := alignedOffset?_le aligned
    rw [← grammar, copy.grammar.length_text] at inside
    exact Nat.le_trans (Nat.add_le_add_left inside _) copy.grammar.inside
  have found : file.fragmentAt? (copy.generated.start + inCopy) = some copy :=
    fragmentAt?_eq_first.mpr ⟨⟨Nat.le_add_right _ _, reached⟩, before, after, placed, free⟩
  refine ⟨copy.grammar.source.clampedSpan (copy.grammar.start + inGrammar) (copy.grammar.start + inGrammar), ?_, rfl,
    copy.grammar.source.clampedSpan_start _ bounded, ?_⟩
  · simp only [grammarSpan?, found, Option.map_some, Nat.add_sub_cancel_left, generated, grammar, aligned]
  · rw [copy.grammar.source.clampedSpan_length (Nat.le_refl _) bounded, Nat.sub_self]

/-- The second line is indented by a tab and not by blanks, and each line ends in another way than in the grammar. -/
theorem FragmentMap.grammarSpan?_relaid_second_line :
    let source : Source := ⟨"G.g4", "a : \x7bx = 1;\n    y();\r\n\x7d ;"⟩
    let action : Span := ⟨source, 5, 17, by decide⟩
    let text := "é /*#fragment_000*/x = 1;\r\n\ty();\n  /*fragment_000#*/\n"
    ∃ file span, strip "P.java" text default [action] = .ok file ∧ file.grammarSpan? 12 = some span ∧
      span.source = source ∧ span.start = 17 ∧ span.length = 0 := by
  intro source action text
  let generated : Source := ⟨"P.java", "é x = 1;\r\n\ty();\n  \n"⟩
  let copy : FragmentCopy := ⟨0, ⟨generated, 2, 16, by decide⟩, action⟩
  let second : RelaidLine := ⟨⟨.feed, "    ".toList⟩, ⟨.returnFeed, "\t".toList⟩, "y();".toList⟩
  let third : RelaidLine := ⟨⟨.returnFeed, []⟩, ⟨.feed, "  ".toList⟩, []⟩
  let first := "x = 1;".toList
  have stripped : strip "P.java" text default [action] = .ok ⟨generated, [copy]⟩ := by decide +kernel
  have copied : copy.generated.text.toList = layOut RelaidLine.inCopy first [second, third] := by decide +kernel
  have written : action.text.toList = layOut RelaidLine.inGrammar first [second, third] := by decide +kernel
  have plain : ∀ line ∈ [second, third], line.PlainIn RelaidLine.inCopy ∧ line.PlainIn RelaidLine.inGrammar := by
    decide +kernel
  have same : SamePlace first [second, third] 10 12 :=
    @SamePlace.later first [second, third] [] [third] second 1 rfl (by decide)
  let file : FragmentMap := ⟨generated, [copy]⟩
  have placed : file.fragments = [] ++ copy :: [] := rfl
  obtain ⟨span, found, here⟩ := grammarSpan?_relaid placed copied written (by decide) plain same (by simp)
  exact ⟨file, span, stripped, found, here⟩

end GrammarFlow
