import GrammarFlow.Text.Source

/-!
The lines of a text, found in one pass. The pass keeps the line starts it has come by and how many
characters it has read; a line feed right behind a carriage return is read together with it.
-/

namespace GrammarFlow

structure LineScan where
  starts : List Nat
  length : Nat
deriving DecidableEq, Repr

namespace LineScan

def start : LineScan := ⟨[0], 0⟩

/-- Reads on in the text, of which the rest begins at `offset`. -/
def read : LineScan → (offset : Nat) → List Char → LineScan
  | scan, _, [] => scan
  | scan, offset, c :: rest =>
    let scan := { scan with length := offset + 1 }
    match c, rest with
    | '\r', '\n' :: rest => read ⟨scan.starts ++ [offset + 2], offset + 2⟩ (offset + 2) rest
    | c, rest =>
      if isTerminator c then read { scan with starts := scan.starts ++ [offset + 1] } (offset + 1) rest
      else read scan (offset + 1) rest

end LineScan

def Source.lineScan (source : Source) : LineScan := LineScan.start.read 0 source.chars

end GrammarFlow
