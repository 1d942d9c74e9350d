import GrammarFlow.Text.Blank
import GrammarFlow.Text.Case
import GrammarFlow.Text.Letter

/-!
Regular patterns over characters. A pattern is built from character sets and anchors by sequence,
ordered choice, repetition and named groups. The order of a choice and the greed of a repetition
say which of several matches is meant.
-/

namespace GrammarFlow

/-- A set of characters as a pattern writes it. -/
inductive CharSet where
  | none
  | range (low high : Char)
  | digit
  | word
  | blank
  | union (a b : CharSet)
  | inter (a b : CharSet)
  | complement (a : CharSet)
  /-- With every character, its case variants. -/
  | anyCase (a : CharSet)
deriving Repr

namespace CharSet

def single (c : Char) : CharSet := range c c

def unionAll (sets : List CharSet) : CharSet := sets.foldr union none

def minus (a b : CharSet) : CharSet := inter a (complement b)

/-- Every character but the line feed. -/
def notLineFeed : CharSet := complement (single '\n')

end CharSet

/-- The characters that a case rule takes to `target`. -/
def Text.CaseShift.sources (rule : Text.CaseShift) (target : Char) : List Char :=
  let source := Char.ofNat (target.toNat - rule.shift).toNat
  if rule.apply? source = some target then [source] else []

/-- A character and all characters with the same fold. -/
def caseVariants (c : Char) : List Char :=
  let fold := Text.foldCase c
  let sources := (Text.foldExceptions ++ Text.smallForms).flatMap fun rule => rule.sources fold
  c :: fold :: sources.filter fun d => Text.foldCase d = fold

def CharSet.holds : CharSet → Char → Bool
  | .none, _ => false
  | .range low high, c => low ≤ c && c ≤ high
  | .digit, c => Text.isDecimalDigit c
  | .word, c => Text.isWordChar c
  | .blank, c => Text.isBlank c
  | .union a b, c => a.holds c || b.holds c
  | .inter a b, c => a.holds c && b.holds c
  | .complement a, c => !a.holds c
  | .anyCase a, c => (caseVariants c).any a.holds

/-- Conditions on the place between two characters. -/
inductive Anchor where
  | textStart
  | textEnd
  | lineStart
  | lineEnd
  | wordBoundary
  | noWordBoundary
  | wordStart
  | wordEnd
deriving DecidableEq, Repr

/-- Whether an anchor holds between these two characters; `none` is the end of the text. -/
def Anchor.holds (before after : Option Char) : Anchor → Bool
  | .textStart => before.isNone
  | .textEnd => after.isNone
  | .lineStart => before.all (· = '\n')
  | .lineEnd => after.all (· = '\n')
  | .wordBoundary => before.any Text.isWordChar != after.any Text.isWordChar
  | .noWordBoundary => before.any Text.isWordChar == after.any Text.isWordChar
  | .wordStart => !before.any Text.isWordChar && after.any Text.isWordChar
  | .wordEnd => before.any Text.isWordChar && !after.any Text.isWordChar

inductive Pattern where
  | empty
  | one (set : CharSet)
  | anchor (kind : Anchor)
  | seq (first second : Pattern)
  /-- The first alternative is preferred. -/
  | choice (first second : Pattern)
  /-- One time or more; a greedy repetition prefers more. -/
  | plus (greedy : Bool) (body : Pattern)
  /-- At most one time. -/
  | optional (greedy : Bool) (body : Pattern)
  | group (name : String) (body : Pattern)
deriving Repr

namespace Pattern

instance : Append Pattern := ⟨seq⟩

def sequence : List Pattern → Pattern
  | [] => empty
  | [p] => p
  | p :: rest => seq p (sequence rest)

def choices : List Pattern → Pattern
  | [] => empty
  | [p] => p
  | p :: rest => choice p (choices rest)

def star (greedy : Bool) (body : Pattern) : Pattern := optional greedy (plus greedy body)

/-- At most `count` times. -/
def upTo (greedy : Bool) : Nat → Pattern → Pattern
  | 0, _ => empty
  | 1, body => optional greedy body
  | count + 2, body => optional greedy (seq body (upTo greedy (count + 1) body))

/-- At least `low` times and, where there is a `high`, at most that often. -/
def between (greedy : Bool) (low : Nat) (high : Option Nat) (body : Pattern) : Pattern :=
  match low, high with
  | 0, none => star greedy body
  | count + 1, none => sequence (List.replicate count body ++ [plus greedy body])
  | count, some high =>
    sequence (List.replicate count body ++
      if count < high then [upTo greedy (high - count) body] else [])

def text (literal : String) : Pattern :=
  sequence (literal.toList.map fun c => one (.single c))

def digits : Pattern := plus true (one .digit)

end Pattern

end GrammarFlow
