import GrammarFlow.Pattern.Basic

/-!
Matching by backtracking. `Pattern.run` tries the ways in which a pattern can match at a place in
the order in which the pattern prefers them, and takes the first from which the rest of the match
can be completed. It has one equation for each kind of pattern. A repetition whose first round
matches nothing ends there, and no later round may match nothing.
-/

namespace GrammarFlow

/-- A place in a text: its offset, the character before it and what follows. -/
structure Cursor where
  offset : Nat
  before : Option Char
  rest : List Char
deriving Repr

namespace Cursor

def start (text : List Char) : Cursor := ⟨0, none, text⟩

def next? (cursor : Cursor) : Option (Char × Cursor) :=
  match cursor.rest with
  | [] => none
  | c :: rest => some (c, ⟨cursor.offset + 1, some c, rest⟩)

end Cursor

/-- What a named group matched last. -/
structure Capture where
  name : String
  start : Nat
  text : List Char
deriving DecidableEq, Repr

namespace Pattern

/-- How a match goes on behind the part that has been matched. -/
abbrev Next (α : Type) := Cursor → List Capture → Option α

/-- Further rounds of `body`, at most so many, each of which has to match something. -/
def rounds {α : Type} (body : Cursor → List Capture → Next α → Option α) (greedy : Bool)
    (next : Next α) : Nat → Cursor → List Capture → Option α
  | 0, cursor, captures => next cursor captures
  | fuel + 1, cursor, captures =>
    let go (reached : Cursor) (captures : List Capture) : Option α :=
      if reached.offset = cursor.offset then none
      else rounds body greedy next fuel reached captures
    if greedy then (body cursor captures go).or (next cursor captures)
    else (next cursor captures).or (body cursor captures go)

def run {α : Type} : Pattern → Cursor → List Capture → Next α → Option α
  | .empty, cursor, captures, next => next cursor captures
  | .one set, cursor, captures, next =>
    match cursor.next? with
    | none => none
    | some (c, after) => if set.holds c then next after captures else none
  | .anchor kind, cursor, captures, next =>
    if kind.holds cursor.before cursor.rest.head? then next cursor captures else none
  | .seq first second, cursor, captures, next =>
    first.run cursor captures fun cursor captures => second.run cursor captures next
  | .choice first second, cursor, captures, next =>
    (first.run cursor captures next).or (second.run cursor captures next)
  | .plus greedy body, cursor, captures, next =>
    body.run cursor captures fun reached captures =>
      if reached.offset = cursor.offset then next reached captures
      else
        rounds (fun cursor captures next => body.run cursor captures next) greedy next
          reached.rest.length reached captures
  | .optional greedy body, cursor, captures, next =>
    if greedy then (body.run cursor captures next).or (next cursor captures)
    else (next cursor captures).or (body.run cursor captures next)
  | .group name body, cursor, captures, next =>
    body.run cursor captures fun reached captures =>
      let text := cursor.rest.take (reached.offset - cursor.offset)
      next reached (⟨name, cursor.offset, text⟩ :: captures)

end Pattern

/-- A match from offset `start` to the cursor `stop`; the latest captures come first. -/
structure Match where
  start : Nat
  stop : Cursor
  captures : List Capture
deriving Repr

def Match.capture? (found : Match) (name : String) : Option Capture :=
  found.captures.find? (·.name = name)

namespace Pattern

def matchAt (pattern : Pattern) (cursor : Cursor) : Option Match :=
  pattern.run cursor [] fun stop captures => some ⟨cursor.offset, stop, captures⟩

/-- The leftmost match in what follows the cursor. -/
def findFrom (pattern : Pattern) (offset : Nat) (before : Option Char) :
    List Char → Option Match
  | [] => pattern.matchAt ⟨offset, before, []⟩
  | c :: rest =>
    (pattern.matchAt ⟨offset, before, c :: rest⟩).or
      (pattern.findFrom (offset + 1) (some c) rest)

def find? (pattern : Pattern) (text : List Char) : Option Match :=
  pattern.findFrom 0 none text

def occursIn (pattern : Pattern) (text : List Char) : Bool := (pattern.find? text).isSome

/-- All matches from left to right, each behind the one before. A match of nothing is followed by
a search one character on. -/
def findAllFrom (pattern : Pattern) : Nat → Cursor → List Match
  | 0, _ => []
  | fuel + 1, cursor =>
    match pattern.findFrom cursor.offset cursor.before cursor.rest with
    | none => []
    | some found =>
      let behind :=
        if found.start < found.stop.offset then some found.stop
        else found.stop.next?.map (·.2)
      match behind with
      | none => [found]
      | some cursor => found :: pattern.findAllFrom fuel cursor

def findAll (pattern : Pattern) (text : List Char) : List Match :=
  pattern.findAllFrom (text.length + 1) (Cursor.start text)

end Pattern

end GrammarFlow
