import GrammarFlow.Pattern.Basic

/-!
The written form of patterns: literals, `.`, classes in brackets, the escapes for digits, word
characters and blanks, groups with and without names, flags, choice, anchors and repetitions in
greedy and lazy forms. There is no looking around and no reference back to a group.
-/

namespace GrammarFlow

inductive PatternError where
  | unclosedGroup
  | unopenedGroup
  | unclosedClass
  | invalidRange
  | invalidEscape
  | unknownProperty
  | invalidRepetition
  | nothingToRepeat
  | lookAround
  | invalidGroupName
  | duplicateGroupName (name : String)
  | invalidFlag
  /-- Ran out of steps; a text of `n` characters needs at most `n + 1`. -/
  | exhausted
deriving DecidableEq, Repr

namespace Pattern

/-- The options that hold at a place of the written form. -/
structure Flags where
  anyCase : Bool
  multiLine : Bool
  dotAll : Bool
  swapGreed : Bool
  verbose : Bool
deriving DecidableEq, Repr

def Flags.start : Flags := ⟨false, false, false, false, false⟩

/-- What an escape or a plain character stands for. -/
inductive Atom where
  | char (c : Char)
  | set (set : CharSet)
  | anchor (kind : Anchor)

/-- Punctuation may always be escaped; escaped letters and digits have meanings of their own. -/
def isEscapable (c : Char) : Bool :=
  c.toNat < 0x80 && !c.isAlphanum && c ≠ '<' && c ≠ '>'

def hexValue (c : Char) : Option Nat :=
  if c.isDigit then some (c.toNat - '0'.toNat)
  else if 'a' ≤ c && c ≤ 'f' then some (c.toNat - 'a'.toNat + 10)
  else if 'A' ≤ c && c ≤ 'F' then some (c.toNat - 'A'.toNat + 10)
  else none

def charOfHex (digits : List Char) : Except PatternError Char := do
  let values ← match digits.mapM hexValue with
    | some (value :: values) => pure (value :: values)
    | _ => throw .invalidEscape
  let code := values.foldl (fun code value => code * 16 + value) 0
  if code.isValidChar then return Char.ofNat code else throw .invalidEscape

/-- The code point behind an `x`, `u` or `U`, with so many digits or any number in braces. -/
def readHex (width : Nat) (text : List Char) : Except PatternError (Char × List Char) :=
  match text with
  | '\x7b' :: rest =>
    let digits := rest.takeWhile (· ≠ '\x7d')
    match rest.drop digits.length with
    | _ :: rest => return (← charOfHex digits, rest)
    | [] => throw .invalidEscape
  | _ =>
    if text.length < width then throw .invalidEscape
    else return (← charOfHex (text.take width), text.drop width)

/-- Reads behind a backslash. -/
def readEscape (text : List Char) : Except PatternError (Atom × List Char) :=
  match text with
  | [] => throw .invalidEscape
  | c :: rest =>
    match c with
    | 'd' => return (.set .digit, rest)
    | 'D' => return (.set (.complement .digit), rest)
    | 's' => return (.set .blank, rest)
    | 'S' => return (.set (.complement .blank), rest)
    | 'w' => return (.set .word, rest)
    | 'W' => return (.set (.complement .word), rest)
    | 'a' => return (.char '\x07', rest)
    | 'f' => return (.char '\x0c', rest)
    | 't' => return (.char '\t', rest)
    | 'n' => return (.char '\n', rest)
    | 'r' => return (.char '\r', rest)
    | 'v' => return (.char '\x0b', rest)
    | 'A' => return (.anchor .textStart, rest)
    | 'z' => return (.anchor .textEnd, rest)
    | 'b' => return (.anchor .wordBoundary, rest)
    | 'B' => return (.anchor .noWordBoundary, rest)
    | '<' => return (.anchor .wordStart, rest)
    | '>' => return (.anchor .wordEnd, rest)
    | 'x' => do let (c, rest) ← readHex 2 rest; return (.char c, rest)
    | 'u' => do let (c, rest) ← readHex 4 rest; return (.char c, rest)
    | 'U' => do let (c, rest) ← readHex 8 rest; return (.char c, rest)
    | 'p' | 'P' => throw .unknownProperty
    | _ => if isEscapable c then return (.char c, rest) else throw .invalidEscape

/-- Verbose patterns may hold blanks and comments between their parts. -/
def skipSpace (flags : Flags) : Nat → List Char → List Char
  | 0, text => text
  | fuel + 1, text =>
    if flags.verbose then
      match text with
      | '#' :: rest => skipSpace flags fuel (rest.dropWhile (· ≠ '\n'))
      | c :: rest => if Text.isBlank c then skipSpace flags fuel rest else text
      | [] => []
    else text

def asciiClass? (name : String) : Option CharSet :=
  let lower := CharSet.range 'a' 'z'
  let upper := CharSet.range 'A' 'Z'
  let figure := CharSet.range '0' '9'
  match name with
  | "alnum" => some (.unionAll [figure, upper, lower])
  | "alpha" => some (.union upper lower)
  | "ascii" => some (.range '\x00' '\x7f')
  | "blank" => some (.union (.single '\t') (.single ' '))
  | "cntrl" => some (.union (.range '\x00' '\x1f') (.single '\x7f'))
  | "digit" => some figure
  | "graph" => some (.range '!' '~')
  | "lower" => some lower
  | "print" => some (.range ' ' '~')
  | "punct" =>
    some (.unionAll [.range '!' '/', .range ':' '@', .range '[' '\x60', .range '\x7b' '~'])
  | "space" => some (.union (.range '\t' '\r') (.single ' '))
  | "upper" => some upper
  | "word" => some (.unionAll [figure, upper, lower, .single '_'])
  | "xdigit" => some (.unionAll [figure, .range 'A' 'F', .range 'a' 'f'])
  | _ => none

/-- A class such as `[:alpha:]`, without its opening bracket. -/
def readAsciiClass? (text : List Char) : Option (CharSet × List Char) :=
  match text with
  | ':' :: rest =>
    let (negated, rest) := match rest with
      | '^' :: rest => (true, rest)
      | rest => (false, rest)
    let name := rest.takeWhile (· ≠ ':')
    match rest.drop name.length with
    | ':' :: ']' :: rest =>
      (asciiClass? (String.ofList name)).map fun set =>
        (if negated then .complement set else set, rest)
    | _ => none
  | _ => none

def withCase (flags : Flags) (set : CharSet) : CharSet :=
  if flags.anyCase then .anyCase set else set

/-- One member of a bracketed class, which may begin a range. -/
def readMember (text : List Char) : Except PatternError (Atom × List Char) :=
  match text with
  | [] => throw .unclosedClass
  | '\\' :: rest => readEscape rest
  | c :: rest => return (.char c, rest)

def memberSet (flags : Flags) : Atom → Except PatternError CharSet
  | .char c => return withCase flags (.single c)
  | .set set => return set
  | .anchor _ => throw .invalidEscape

/-- How two operands of a class are joined. -/
inductive SetOperator where
  | inter
  | minus
  | symmetric

def SetOperator.apply : SetOperator → CharSet → CharSet → CharSet
  | .inter, a, b => .inter a b
  | .minus, a, b => .minus a b
  | .symmetric, a, b => .union (.minus a b) (.minus b a)

/-- An operand that waits for its right neighbour. -/
abbrev Pending := Option (CharSet × SetOperator)

def Pending.close (pending : Pending) (members : List CharSet) : CharSet :=
  let operand := CharSet.unionAll members.reverse
  match pending with
  | none => operand
  | some (left, operator) => operator.apply left operand

/-- Behind an opening bracket: an optional `^`, then hyphens and a closing bracket that stand for
themselves. -/
def openClass (flags : Flags) (text : List Char) : Bool × List CharSet × List Char :=
  let (negated, rest) := match skipSpace flags text.length text with
    | '^' :: rest => (true, skipSpace flags rest.length rest)
    | rest => (false, rest)
  let hyphens := rest.takeWhile (· = '-')
  let rest := rest.drop hyphens.length
  let members := hyphens.map CharSet.single
  match rest, members with
  | ']' :: rest, [] => (negated, [.single ']'], rest)
  | rest, members => (negated, members, rest)

/-- Reads the members of a class up to its closing bracket. -/
def readClass (flags : Flags) (negated : Bool) :
    Nat → Pending → List CharSet → List Char → Except PatternError (CharSet × List Char)
  | 0, _, _, _ => throw .exhausted
  | fuel + 1, pending, members, text =>
    match skipSpace flags text.length text with
    | [] => throw .unclosedClass
    | ']' :: rest =>
      let set := pending.close members
      return (if negated then .complement set else set, rest)
    | '[' :: rest =>
      match readAsciiClass? rest with
      | some (set, rest) =>
        readClass flags negated fuel pending (withCase flags set :: members) rest
      | none => do
        let (inner, first, rest) := openClass flags rest
        let (set, rest) ← readClass flags inner fuel none first rest
        readClass flags negated fuel pending (set :: members) rest
    | '&' :: '&' :: rest =>
      readClass flags negated fuel (some (pending.close members, .inter)) [] rest
    | '-' :: '-' :: rest =>
      readClass flags negated fuel (some (pending.close members, .minus)) [] rest
    | '~' :: '~' :: rest =>
      readClass flags negated fuel (some (pending.close members, .symmetric)) [] rest
    | text => do
      let (first, rest) ← readMember text
      match skipSpace flags rest.length rest with
      | [] => throw .unclosedClass
      | '-' :: behind =>
        match skipSpace flags behind.length behind with
        | ']' :: _ | '-' :: _ =>
          let set ← memberSet flags first
          readClass flags negated fuel pending (set :: members) ('-' :: behind)
        | behind =>
          let (last, rest) ← readMember behind
          match first, last with
          | .char low, .char high =>
            if low ≤ high then
              let set := withCase flags (.range low high)
              readClass flags negated fuel pending (set :: members) rest
            else throw .invalidRange
          | _, _ => throw .invalidRange
      | rest => readClass flags negated fuel pending ((← memberSet flags first) :: members) rest

/-- A number between blanks, as in a counted repetition. -/
def readCount (text : List Char) : Except PatternError (Nat × List Char) :=
  let rest := text.dropWhile Text.isBlank
  let digits := rest.takeWhile Char.isDigit
  let value := Nat.ofDigitChars 10 digits 0
  if digits.isEmpty || 0x100000000 ≤ value then throw .invalidRepetition
  else return (value, (rest.drop digits.length).dropWhile Text.isBlank)

/-- The bounds of a counted repetition, behind its opening brace. -/
def readBounds (flags : Flags) (text : List Char) :
    Except PatternError ((Nat × Option Nat) × List Char) := do
  let (low, rest) ← readCount text
  match rest with
  | '\x7d' :: rest => return ((low, some low), rest)
  | ',' :: rest =>
    match skipSpace flags rest.length rest with
    | '\x7d' :: rest => return ((low, none), rest)
    | rest =>
      let (high, rest) ← readCount rest
      match rest with
      | '\x7d' :: rest =>
        if low ≤ high then return ((low, some high), rest) else throw .invalidRepetition
      | _ => throw .invalidRepetition
  | _ => throw .invalidRepetition

/-- Whether a question mark makes the repetition before it lazy. -/
def readGreed (flags : Flags) (text : List Char) : Bool × List Char :=
  match skipSpace flags text.length text with
  | '?' :: rest => (flags.swapGreed, rest)
  | rest => (!flags.swapGreed, rest)

def isGroupNameStart (c : Char) : Bool :=
  c = '_' || Text.inRanges Text.alphabetics c

def isGroupNameChar (c : Char) : Bool :=
  c = '_' || c = '.' || c = '[' || c = ']' || Text.isAlphanumeric c

def readGroupName (taken : List String) (text : List Char) :
    Except PatternError (String × List Char) :=
  let name := text.takeWhile (· ≠ '>')
  match text.drop name.length with
  | [] => throw .invalidGroupName
  | _ :: rest =>
    match name with
    | [] => throw .invalidGroupName
    | first :: others =>
      if isGroupNameStart first && others.all isGroupNameChar then
        let name := String.ofList name
        if name ∈ taken then throw (.duplicateGroupName name) else return (name, rest)
      else throw .invalidGroupName

def Flags.set (flags : Flags) (flag : Char) (value : Bool) : Option Flags :=
  match flag with
  | 'i' => some { flags with anyCase := value }
  | 'm' => some { flags with multiLine := value }
  | 's' => some { flags with dotAll := value }
  | 'U' => some { flags with swapGreed := value }
  | 'x' => some { flags with verbose := value }
  | 'u' => if value then some flags else none
  | _ => none

/-- Reads flags up to a colon or a closing parenthesis. A hyphen turns those behind it off; no
flag is given twice and something has to follow the hyphen. -/
def readFlags : Flags → (seen : List Char) → (value : Bool) → List Char →
    Except PatternError ((Flags × Char) × List Char)
  | _, _, _, [] => throw .invalidFlag
  | flags, seen, value, c :: rest =>
    if c = ':' || c = ')' then
      if seen.head? = some '-' then throw .invalidFlag
      else if c = ')' && seen.isEmpty then throw .nothingToRepeat
      else return ((flags, c), rest)
    else if c ∈ seen then throw .invalidFlag
    else if c = '-' then readFlags flags (c :: seen) false rest
    else
      match flags.set c value with
      | some flags => readFlags flags (c :: seen) value rest
      | none => throw .invalidFlag

/-- How a parenthesis opens. -/
inductive Opening where
  | plain
  | named (name : String)
  | flagged (flags : Flags)
  /-- No group: new flags for the rest of the group around. -/
  | setFlags (flags : Flags)

def readOpening (flags : Flags) (taken : List String) (text : List Char) :
    Except PatternError (Opening × List Char) :=
  match text with
  | '?' :: '=' :: _ | '?' :: '!' :: _ | '?' :: '<' :: '=' :: _ | '?' :: '<' :: '!' :: _ =>
    throw .lookAround
  | '?' :: 'P' :: '<' :: rest | '?' :: '<' :: rest => do
    let (name, rest) ← readGroupName taken rest
    return (.named name, rest)
  | '?' :: rest => do
    let ((flags, stop), rest) ← readFlags flags [] true rest
    return (if stop = ':' then .flagged flags else .setFlags flags, rest)
  | rest => return (.plain, rest)

/-- The state of reading a group: its flags, its finished alternatives and the parts of the current
one, both latest first. A flag setting is a part that cannot be repeated. -/
structure Partial where
  flags : Flags
  names : List String
  alternatives : List Pattern
  parts : List (Option Pattern)

namespace Partial

def alternative (state : Partial) : Pattern := sequence (state.parts.filterMap id).reverse

def finish (state : Partial) : Pattern :=
  choices (state.alternative :: state.alternatives).reverse

def push (state : Partial) (part : Pattern) : Partial :=
  { state with parts := some part :: state.parts }

def nextAlternative (state : Partial) : Partial :=
  { state with alternatives := state.alternative :: state.alternatives, parts := [] }

/-- Puts a repetition around the part read last. -/
def wrap (state : Partial) (repetition : Pattern → Pattern) : Except PatternError Partial :=
  match state.parts with
  | some part :: parts => return { state with parts := some (repetition part) :: parts }
  | _ => throw .nothingToRepeat

end Partial

def atomPattern (flags : Flags) : Atom → Pattern
  | .char c => .one (withCase flags (.single c))
  | .set set => .one set
  | .anchor kind => .anchor kind

/-- Reads the alternatives of a group, up to a closing parenthesis that is left in place or to the
end of the text. -/
def readGroup : Nat → Partial → List Char → Except PatternError (Partial × List Char)
  | 0, _, _ => throw .exhausted
  | fuel + 1, state, text => do
    let flags := state.flags
    match skipSpace flags text.length text with
    | [] => return (state, [])
    | ')' :: rest => return (state, ')' :: rest)
    | '|' :: rest => readGroup fuel state.nextAlternative rest
    | '(' :: rest =>
      let (opening, rest) ← readOpening flags state.names (skipSpace flags rest.length rest)
      match opening with
      | .setFlags flags =>
        readGroup fuel { state with flags, parts := none :: state.parts } rest
      | opening =>
        let inner : Partial := match opening with
          | .named name => ⟨flags, name :: state.names, [], []⟩
          | .flagged flags => ⟨flags, state.names, [], []⟩
          | _ => ⟨flags, state.names, [], []⟩
        let (inside, rest) ← readGroup fuel inner rest
        match rest with
        | ')' :: rest =>
          let body := match opening with
            | .named name => .group name inside.finish
            | _ => inside.finish
          readGroup fuel ({ state with names := inside.names }.push body) rest
        | _ => throw .unclosedGroup
    | '[' :: rest =>
      let (negated, first, rest) := openClass flags rest
      let (set, rest) ← readClass flags negated (rest.length + 1) none first rest
      readGroup fuel (state.push (.one set)) rest
    | '*' :: rest =>
      let (greedy, rest) := readGreed flags rest
      readGroup fuel (← state.wrap (star greedy)) rest
    | '+' :: rest =>
      let (greedy, rest) := readGreed flags rest
      readGroup fuel (← state.wrap (plus greedy)) rest
    | '?' :: rest =>
      let (greedy, rest) := readGreed flags rest
      readGroup fuel (← state.wrap (optional greedy)) rest
    | '\x7b' :: rest =>
      if state.parts.head?.join.isNone then throw .nothingToRepeat
      let ((low, high), rest) ← readBounds flags (skipSpace flags rest.length rest)
      let (greedy, rest) := readGreed flags rest
      readGroup fuel (← state.wrap (between greedy low high)) rest
    | '.' :: rest =>
      let set := if flags.dotAll then .complement .none else .notLineFeed
      readGroup fuel (state.push (.one set)) rest
    | '^' :: rest =>
      let anchor := if flags.multiLine then .lineStart else .textStart
      readGroup fuel (state.push (.anchor anchor)) rest
    | '$' :: rest =>
      let anchor := if flags.multiLine then .lineEnd else .textEnd
      readGroup fuel (state.push (.anchor anchor)) rest
    | '\\' :: rest =>
      let (atom, rest) ← readEscape rest
      readGroup fuel (state.push (atomPattern flags atom)) rest
    | c :: rest => readGroup fuel (state.push (atomPattern flags (.char c))) rest

/-- Reads the written form of a pattern. -/
def ofString (written : String) : Except PatternError Pattern := do
  let text := written.toList
  let (state, rest) ← readGroup (text.length + 1) ⟨.start, [], [], []⟩ text
  match rest with
  | [] => return state.finish
  | _ => throw .unopenedGroup

end Pattern

/-- A pattern together with its written form, for matching the lines of a tool. -/
structure WrittenPattern where
  written : String
  pattern : Pattern
deriving Repr

namespace WrittenPattern

def ofString (written : String) : Except PatternError WrittenPattern :=
  return ⟨written, ← Pattern.ofString written⟩

end WrittenPattern

end GrammarFlow
