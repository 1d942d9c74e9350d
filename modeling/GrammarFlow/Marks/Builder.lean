import GrammarFlow.Marks.Marked

/-!
A marking that is changed in place, call by call. A call checks the mark against the builder and then changes
one field after the other; the length of the text is counted as the text grows. What a call has changed
when it is refused stays changed, so nothing but the order of its checks keeps a refusal harmless.
-/

namespace GrammarFlow

structure MarkBuilder where
  plain : Source
  markLength : Nat
  /-- How much of the plain source is in the text. -/
  copied : Nat
  text : List Char
  textLength : Nat
  /-- Where each mark ends, in the text. -/
  offsets : List Nat

namespace MarkBuilder

/-- What works on a builder and may be refused at any point. -/
abbrev Work (α : Type) := ExceptT MarkError (StateM MarkBuilder) α

def start (plain : Source) (markLength : Nat) : MarkBuilder := ⟨plain, markLength, 0, [], 0, []⟩

def check (offset : Nat) (mark : String) : Work Unit := do
  let builder ← get
  if builder.plain.length < offset then throw (.outOfRange offset builder.plain.length)
  if offset < builder.copied then throw (.unordered offset builder.copied)
  if mark.length ≠ builder.markLength then throw (.lengthMismatch builder.markLength mark.length)

def copyTo (offset : Nat) : Work Unit := do
  modify fun builder =>
    let between := (builder.plain.chars.drop builder.copied).take (offset - builder.copied)
    { builder with text := builder.text ++ between }
  modify fun builder => { builder with textLength := builder.textLength + (offset - builder.copied) }
  modify fun builder => { builder with copied := offset }

def append (mark : String) : Work Unit := do
  modify fun builder => { builder with text := builder.text ++ mark.toList }
  modify fun builder => { builder with textLength := builder.textLength + mark.length }
  modify fun builder => { builder with offsets := builder.offsets ++ [builder.textLength] }

/-- Puts a mark in front of the character at `offset` of the plain source. -/
def insert (offset : Nat) (mark : String) : Work Unit := do
  check offset mark
  copyTo offset
  append mark

/-- The answer to a call, and the builder as the call leaves it. -/
def call (builder : MarkBuilder) (offset : Nat) (mark : String) : Except MarkError Unit × MarkBuilder :=
  (insert offset mark).run.run builder

/-- The marks that a sequence of calls has put in, and the builder after the last call. -/
def run : MarkBuilder → List (Nat × String) → List (Nat × String) × MarkBuilder
  | builder, [] => ([], builder)
  | builder, (offset, mark) :: calls =>
    match builder.call offset mark with
    | (.ok _, builder) =>
      let (marks, builder) := builder.run calls
      ((offset, mark) :: marks, builder)
    | (.error _, builder) => builder.run calls

def finish (builder : MarkBuilder) (name : String) : MarkedSource where
  source := ⟨name, String.ofList (builder.text ++ builder.plain.chars.drop builder.copied)⟩
  offsets := builder.offsets
  markLength := builder.markLength
  plain := builder.plain

end MarkBuilder

end GrammarFlow
