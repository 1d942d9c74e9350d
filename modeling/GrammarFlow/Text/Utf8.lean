/-!
UTF-8. Bytes are read in pieces: a piece is a character or a longest run of bytes that begins one
but cannot be completed. A strict reader accepts bytes without such runs; a lenient one puts one
replacement character for each.
-/

namespace GrammarFlow.Text.Utf8

def encode (chars : List Char) : List UInt8 := chars.flatMap String.utf8EncodeChar

/-- What a leading byte calls for: how many bytes follow, and the bounds of the first of them.
The bounds keep out overlong forms, surrogates and numbers past the last character. -/
def expected (lead : UInt8) : Option (Nat × UInt8 × UInt8) :=
  if lead < 0x80 then some (0, 0x80, 0xbf)
  else if lead < 0xc2 then none
  else if lead < 0xe0 then some (1, 0x80, 0xbf)
  else if lead = 0xe0 then some (2, 0xa0, 0xbf)
  else if lead = 0xed then some (2, 0x80, 0x9f)
  else if lead < 0xf0 then some (2, 0x80, 0xbf)
  else if lead = 0xf0 then some (3, 0x90, 0xbf)
  else if lead < 0xf4 then some (3, 0x80, 0xbf)
  else if lead = 0xf4 then some (3, 0x80, 0x8f)
  else none

/-- The following bytes that are there, at most as many as called for. -/
def continuations : Nat → UInt8 → UInt8 → List UInt8 → List UInt8
  | 0, _, _, _ => []
  | _ + 1, _, _, [] => []
  | count + 1, low, high, byte :: rest =>
    if low ≤ byte ∧ byte ≤ high then byte :: continuations count 0x80 0xbf rest else []

/-- The number that a leading byte and its following bytes spell. -/
def codePoint (lead : UInt8) (following : List UInt8) : Nat :=
  let kept := match following.length with
    | 0 => lead.toNat
    | 1 => lead.toNat % 0x20
    | 2 => lead.toNat % 0x10
    | _ => lead.toNat % 0x08
  following.foldl (fun value byte => value * 0x40 + byte.toNat % 0x40) kept

/-- The pieces of a byte string; `none` stands for a run that is no character. -/
def pieces : List UInt8 → List (Option Char)
  | [] => []
  | lead :: rest =>
    match expected lead with
    | none => none :: pieces rest
    | some (count, low, high) =>
      let following := continuations count low high rest
      let piece :=
        if following.length = count then some (Char.ofNat (codePoint lead following)) else none
      piece :: pieces (rest.drop following.length)
termination_by bytes => bytes.length
decreasing_by all_goals simp [List.length_drop]; try omega

def decode? (bytes : List UInt8) : Option (List Char) := (pieces bytes).mapM id

def replacement : Char := '\ufffd'

def decodeLossy (bytes : List UInt8) : List Char := (pieces bytes).map (·.getD replacement)

end GrammarFlow.Text.Utf8
