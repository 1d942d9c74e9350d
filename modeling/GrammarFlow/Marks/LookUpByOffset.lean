import GrammarFlow.Marks.FragmentMap
import GrammarFlow.Text.Checked

/-!
Looking a place up in a file without marks, offset by offset. A part of a copy or of its fragment that is not
there and a difference below zero fail; only the difference between two columns may be below zero.
-/

namespace GrammarFlow

/-- The offsets of the line feeds in a text that begins at `offset`. -/
def lineFeedsFrom (offset : Nat) (text : List Char) : List Nat :=
  ((text.zipIdx offset).filter fun entry => entry.1 = '\n').map Prod.snd

/-- The offset of a line by the line feeds in front of it. -/
def lineStartByFeeds? (text : List Char) : (line : Nat) → Option Nat
  | 0 => some 0
  | before + 1 => (lineFeedsFrom 0 text)[before]?.map (· + 1)

/-- How far the line at an offset goes before its terminator, or to the end of the text. -/
def lineLengthAt? (text : List Char) (offset : Nat) : Option Nat := do
  let behind ← Text.cut? text offset text.length
  let rest ← Text.minus? text.length offset
  return (behind.findIdx? fun c => c = '\n' || c = '\r').getD rest

/-- Where in `grammar` an offset of its copy `generated` comes from; no offset if the copy has more lines. -/
def alignedByOffset? (generated grammar : List Char) (inside : Nat) : Option (Option Nat) := do
  let before ← Text.cut? generated 0 inside
  let line := before.count '\n'
  let lineStart := (lineStartByFeeds? generated line).getD 0
  let column ← Text.minus? inside lineStart
  if line = 0 then
    return some (min column (← lineLengthAt? grammar 0))
  else
    match lineStartByFeeds? grammar line with
    | none => return none
    | some grammarStart =>
      let generatedLength ← lineLengthAt? generated lineStart
      let grammarLength ← lineLengthAt? grammar grammarStart
      let shift : Int := generatedLength - grammarLength
      let column := (max (column - shift) 0).toNat
      return some (grammarStart + min column grammarLength)

/-- The place in the grammar that a position comes from, if it is in a copied fragment. -/
def FragmentMap.lookUp? (file : FragmentMap) (position : Nat) : Option (Option Span) :=
  match file.fragmentAt? position with
  | none => some none
  | some fragment => do
    let inside ← Text.minus? position fragment.generated.start
    match ← alignedByOffset? fragment.generated.text.toList fragment.grammar.text.toList inside with
    | none => return some fragment.grammar
    | some offset =>
      let start := fragment.grammar.start + offset
      return some (← fragment.grammar.source.clampedSpan? start start)

end GrammarFlow
