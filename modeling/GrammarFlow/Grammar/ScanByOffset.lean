import GrammarFlow.Grammar.Scan
import GrammarFlow.Text.Checked

/-!
The first look at a grammar's text, offset by offset: the pass that moves through the text and blanks out a copy
of it. A place or a range that the text does not have, a depth below zero, and a round that does not move
forward fail.
-/

namespace GrammarFlow.Scan

/-- The first line feed from an offset on, or the end of the text. -/
def lineFeedFrom? (text : List Char) (offset : Nat) : Option Nat :=
  if _ : offset < text.length then do
    let c ← text[offset]?
    if c = '\n' then return offset else lineFeedFrom? text (offset + 1)
  else return text.length
termination_by text.length - offset

/-- Behind the first `*` and `/` from an offset on, or the end of the text. -/
def commentEndFrom? (text : List Char) (offset : Nat) : Option Nat :=
  if _ : offset < text.length - 1 then do
    let first ← text[offset]?
    let second ← text[offset + 1]?
    if first = '*' ∧ second = '/' then return offset + 2 else commentEndFrom? text (offset + 1)
  else return text.length
termination_by text.length - offset

/-- Behind the first closing delimiter from an offset on, or the end of the text. -/
def quoteEndFrom? (close : Char) (text : List Char) (offset : Nat) : Option Nat :=
  if _ : offset < text.length then do
    let c ← text[offset]?
    if c = '\\' then quoteEndFrom? close text (offset + 2)
    else if c = close then return offset + 1
    else quoteEndFrom? close text (offset + 1)
  else return text.length
termination_by text.length - offset

/-- The end of a comment at an offset, if there is one. -/
def commentAt? (text : List Char) (offset : Nat) : Option (Option Nat) := do
  let c ← text[offset]?
  if c = '/' ∧ text[offset + 1]? = some '/' then some <$> lineFeedFrom? text offset
  else if c = '/' ∧ text[offset + 1]? = some '*' then some <$> commentEndFrom? text (offset + 2)
  else return none

/-- The end of a comment or a quoted text at an offset inside a block, if there is one. -/
def skipAt? (text : List Char) (offset : Nat) : Option (Option Nat) := do
  match ← commentAt? text offset with
  | some stop => return some stop
  | none =>
    let c ← text[offset]?
    if c = '\'' ∨ c = '"' then some <$> quoteEndFrom? c text (offset + 1) else return none

/-- Behind the brace that closes the `depth` open ones, or the end of the text. -/
def blockEndFrom? (text : List Char) (depth offset : Nat) : Option Nat :=
  if _ : offset < text.length then do
    let c ← text[offset]?
    if c = '\x7b' then blockEndFrom? text (depth + 1) (offset + 1)
    else if c = '\x7d' then
      let depth ← Text.minus? depth 1
      if depth = 0 then return offset + 1 else blockEndFrom? text depth (offset + 1)
    else
      match ← skipAt? text offset with
      | some stop => if _ : offset < stop then blockEndFrom? text depth stop else none
      | none => blockEndFrom? text depth (offset + 1)
  else return text.length
termination_by text.length - offset

/-- Where something that has to be blanked out ends. -/
inductive Extent where
  | hidden (stop : Nat)
  | block (stop : Nat)
deriving DecidableEq, Repr

def Extent.stop : Extent → Nat
  | hidden stop => stop
  | block stop => stop

def extentAt? (text : List Char) (offset : Nat) : Option (Option Extent) := do
  match ← commentAt? text offset with
  | some stop => return some (.hidden stop)
  | none =>
    let c ← text[offset]?
    if c = '\'' then (some ∘ .hidden) <$> quoteEndFrom? '\'' text (offset + 1)
    else if c = '[' then (some ∘ .hidden) <$> quoteEndFrom? ']' text (offset + 1)
    else if c = '\x7b' then (some ∘ .block) <$> blockEndFrom? text 0 offset
    else return none

/-- The range of a block's content, if the block is an action. -/
def Extent.actions? (text masked : List Char) (offset : Nat) : Extent → Option (List (Nat × Nat))
  | hidden _ => some []
  | block stop => do
    let last ← Text.minus? stop 1
    let before ← Text.cut? masked 0 offset
    let c ← text[last]?
    if lastWord before.reverse ∈ blockKeywords then return []
    else return [(offset + 1, max (if c = '\x7d' then last else stop) (offset + 1))]

def blankOut? (masked : List Char) (start stop : Nat) : Option (List Char) := do
  let part ← Text.cut? masked start stop
  return masked.take start ++ part.map blank ++ masked.drop stop

/-- Goes on from an offset with the copy and the actions so far. -/
def scanFrom? (text masked : List Char) (actions : List (Nat × Nat)) (offset : Nat) : Option Masked :=
  if _ : offset < text.length then do
    match ← extentAt? text offset with
    | none => scanFrom? text masked actions (offset + 1)
    | some extent =>
      let more ← extent.actions? text masked offset
      let masked ← blankOut? masked offset extent.stop
      if _ : offset < extent.stop then scanFrom? text masked (actions ++ more) extent.stop else none
  else return ⟨masked, actions⟩
termination_by text.length - offset

def scan? (text : List Char) : Option Masked := scanFrom? text text [] 0

end GrammarFlow.Scan
