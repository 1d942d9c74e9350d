import GrammarFlow.Process.ShellReader
import GrammarFlow.Proofs.ParserRun

/-!
A command line is read back as the words it was made of. Every chunk of a word is written in a style that allows
all its characters, and in each of the three styles a shell takes the characters of a chunk for themselves and goes
on with the same word behind it. Words are parted by blanks, and no chunk shows one that is not quoted.
-/

namespace GrammarFlow

namespace Shell

namespace Reader
variable {reader : Reader} {text word : List Char}

theorem add_add (reader : Reader) (first second : List Char) :
    (reader.add first).add second = reader.add (first ++ second) := by
  simp [add]

/-- A shell that reads the text adds the word to what it is reading. -/
def Spells (text word : List Char) : Prop :=
  ∀ reader : Reader, reader.quoting = .bare → text.foldlM step reader = some (reader.add word)

theorem Spells.append {first second word other : List Char} (spells : Spells first word)
    (goesOn : Spells second other) : Spells (first ++ second) (word ++ other) := by
  intro reader bare
  rw [List.foldlM_append, spells reader bare, ← add_add]
  exact goesOn (reader.add word) bare

end Reader

open Shell.Reader

section Styles
variable {styles : Styles} {chunk : List Char} {c : Char}

theorem ne_of_isBare {d : Char} (bare : isBare c = true) (other : isBare d = false) : c ≠ d := by
  rintro rfl
  rw [bare] at other
  cases other

theorem not_reserved_of_isBare (bare : isBare c = true) : c ∉ reserved := by
  have none : reserved.any isBare = false := by decide
  exact fun member => List.any_eq_false.mp none c member bare

theorem spells_bare (nonempty : chunk ≠ []) (bare : ∀ c ∈ chunk, isBare c = true) : Spells chunk chunk := by
  have one {c : Char} (bare : isBare c = true) : Spells [c] [c] := by
    intro reader outside
    have other (d : Char) := ne_of_isBare (d := d) bare
    simp [step, outside, other ' ' (by decide), other '\t' (by decide), other '\'' (by decide),
      other '"' (by decide), other '\\' (by decide), not_reserved_of_isBare bare]
  induction chunk with
  | nil => exact absurd rfl nonempty
  | cons c chunk ih =>
    rw [List.forall_mem_cons] at bare
    cases chunk with
    | nil => exact one bare.1
    | cons d chunk => exact (one bare.1).append (ih (List.cons_ne_nil _ _) bare.2)

theorem spells_single (plain : ∀ c ∈ chunk, c ≠ '\'') : Spells ('\'' :: chunk ++ ['\'']) chunk := by
  have inside (reader : Reader) (read : List Char) :
      chunk.foldlM step ((reader.add read).turn .single) = some ((reader.add (read ++ chunk)).turn .single) := by
    induction chunk generalizing read with
    | nil => simp
    | cons c chunk ih =>
      rw [List.forall_mem_cons] at plain
      have next : step ((reader.add read).turn .single) c = some ((reader.add (read ++ [c])).turn .single) := by
        rw [← add_add]
        simp [step, turn, plain.1, add]
      rw [List.foldlM_cons, next]
      simpa using ih plain.2 (read ++ [c])
  intro reader bare
  have opened : step reader '\'' = some ((reader.add []).turn .single) := by simp [step, bare]
  have closed : step ((reader.add chunk).turn .single) '\'' = some (reader.add chunk) := by
    simp [step, turn, add, bare]
  simp [List.foldlM_append, opened, inside reader [], closed]

def escapeDouble (c : Char) : List Char := if c = '"' || c = '\\' then ['\\', c] else [c]

theorem spells_double (plain : ∀ c ∈ chunk, c ≠ '$' ∧ c ≠ '\x60') :
    Spells ('"' :: chunk.flatMap escapeDouble ++ ['"']) chunk := by
  have inside (reader : Reader) (read : List Char) :
      (chunk.flatMap escapeDouble).foldlM step ((reader.add read).turn .double) =
        some ((reader.add (read ++ chunk)).turn .double) := by
    induction chunk generalizing read with
    | nil => simp
    | cons c chunk ih =>
      rw [List.forall_mem_cons] at plain
      have next : (escapeDouble c).foldlM step ((reader.add read).turn .double) =
          some ((reader.add (read ++ [c])).turn .double) := by
        rw [← add_add]
        unfold escapeDouble
        split
        next special =>
          rw [Bool.or_eq_true, decide_eq_true_eq, decide_eq_true_eq] at special
          rcases special with rfl | rfl <;> simp [step, turn, add, doubleEscapes]
        next special =>
          rw [Bool.or_eq_true, decide_eq_true_eq, decide_eq_true_eq, not_or] at special
          simp [step, turn, special, plain.1, add]
      rw [List.flatMap_cons, List.foldlM_append, next]
      simpa using ih plain.2 (read ++ [c])
  intro reader bare
  have opened : step reader '"' = some ((reader.add []).turn .double) := by simp [step, bare]
  have closed : step ((reader.add chunk).turn .double) '"' = some (reader.add chunk) := by
    simp [step, turn, add, bare]
  simp [List.foldlM_append, opened, inside reader [], closed]

/-- What a shell needs of the characters of a chunk in each style that is left for it. -/
structure Styles.Fit (styles : Styles) (chunk : List Char) : Prop where
  bare : styles.bare = true → ∀ c ∈ chunk, isBare c = true
  single : styles.single = true → ∀ c ∈ chunk, c ≠ '\''
  double : styles.double = true → ∀ c ∈ chunk, c ≠ '$' ∧ c ≠ '\x60'
  possible : styles.isNone = false

theorem Styles.Fit.keep (fit : styles.Fit chunk) (possible : (styles.keep c).isNone = false) :
    (styles.keep c).Fit (chunk ++ [c]) := by
  refine ⟨?bare, ?single, ?double, possible⟩
  all_goals
    intro kept
    simp only [Styles.keep, Bool.and_eq_true] at kept
    rw [List.forall_mem_append, List.forall_mem_singleton]
  case bare => exact ⟨fit.bare kept.1, kept.2⟩
  case single =>
    refine ⟨fit.single kept.1, ?_⟩
    rintro rfl
    exact absurd kept.2 (by decide)
  case double =>
    refine ⟨fit.double kept.1, ?_, ?_⟩
    all_goals
      rintro rfl
      exact absurd kept.2 (by decide)

theorem Styles.start_fit (c : Char) : (start c).Fit [c] := by
  unfold start
  split
  next caret =>
    subst caret
    exact ⟨by simp, by simp, by simp, rfl⟩
  next plain =>
    have empty : all.Fit [] := ⟨by simp, by simp, by simp, rfl⟩
    refine empty.keep ?_
    by_cases special : c = '\'' ∨ c = '\\'
    · rcases special with rfl | rfl <;> decide
    · simp [keep, isNone, all, isSingle, not_or.mp special, plain]

theorem takeChunk_append (styles : Styles) (text : List Char) :
    (takeChunk styles text).1 ++ (takeChunk styles text).2.2 = text := by
  induction text generalizing styles with
  | nil => rfl
  | cons c text ih =>
    simp only [takeChunk]
    split
    · rfl
    · exact congrArg (c :: ·) (ih _)

theorem takeChunk_fit {before : List Char} (fit : styles.Fit before) (text : List Char) :
    (takeChunk styles text).2.1.Fit (before ++ (takeChunk styles text).1) := by
  induction text generalizing styles before with
  | nil => simpa [takeChunk] using fit
  | cons c text ih =>
    simp only [takeChunk]
    split
    · simpa using fit
    next possible => simpa using ih (fit.keep (Bool.not_eq_true _ ▸ possible))

theorem Styles.Fit.spells_write (fit : styles.Fit chunk) (nonempty : chunk ≠ []) :
    Spells (styles.write chunk) chunk := by
  unfold Styles.write
  split
  next bare => exact spells_bare nonempty (fit.bare bare)
  next noBare =>
    split
    next single => exact spells_single (fit.single single)
    next noSingle =>
      have double : styles.double = true := by
        have possible := fit.possible
        simpa [Styles.isNone, noBare, noSingle] using possible
      exact spells_double (fit.double double)

end Styles

section Words

theorem spells_quoteChunks {word : List Char} (nonempty : word ≠ []) : Spells (quoteChunks word) word := by
  fun_induction quoteChunks word with
  | case1 => exact absurd rfl nonempty
  | case2 c rest taken ih =>
    have parts : c :: taken.1 ++ taken.2.2 = c :: rest := congrArg (c :: ·) (takeChunk_append ..)
    have fit : taken.2.1.Fit (c :: taken.1) := takeChunk_fit (Styles.start_fit c) rest
    have first := fit.spells_write (List.cons_ne_nil _ _)
    rw [← parts]
    by_cases last : taken.2.2 = []
    · simpa [last, quoteChunks] using first
    · exact first.append (ih last)

theorem spells_quoteWord (word : String) : Spells (quoteWord word).toList word.toList := by
  unfold quoteWord
  split
  next empty =>
    have none : word.toList = [] := by simpa using empty
    rw [none]
    exact @spells_single [] (by simp)
  next nonempty =>
    rw [String.toList_ofList]
    exact spells_quoteChunks (by simpa using nonempty)

/-- The words behind those that have been read are read one after the other. -/
theorem read_quotedWords (before : List (List Char)) (words : List String) (nonempty : words ≠ []) :
    ∃ reader, (" ".intercalate (words.map quoteWord)).toList.foldlM step ⟨before, none, .bare⟩ = some reader ∧
      reader.quoting = .bare ∧ reader.allWords = before ++ words.map String.toList := by
  induction words generalizing before with
  | nil => exact absurd rfl nonempty
  | cons word words ih =>
    have first := spells_quoteWord word ⟨before, none, .bare⟩ rfl
    cases words with
    | nil => exact ⟨_, by simpa using first, rfl, by simp [add, allWords]⟩
    | cons next words =>
      obtain ⟨reader, read, bare, all⟩ := ih (before ++ [word.toList]) (List.cons_ne_nil _ _)
      refine ⟨reader, ?_, bare, by simpa using all⟩
      have blank : step (add ⟨before, none, .bare⟩ word.toList) ' ' =
          some ⟨before ++ [word.toList], none, .bare⟩ := by simp [step, add, allWords]
      simpa [List.foldlM_append, first, blank] using read

theorem readWords?_joinWords {words : List String} (nonempty : words ≠ [])
    (noNul : ∀ word ∈ words, '\x00' ∉ word.toList) : readWords? (joinWords words) = some words := by
  have quoted : joinWords words = " ".intercalate (words.map quoteWord) := by
    rw [joinWords, if_neg]
    simpa using noNul
  obtain ⟨reader, read, bare, all⟩ := read_quotedWords [] words nonempty
  rw [readWords?, quoted, start, read]
  simp [bare, all, Function.comp_def]

end Words

end Shell

/-- No word of the invocation holds a NUL, which no quoting can hide. -/
def Invocation.NulFree (invocation : Invocation) : Prop :=
  ∀ word ∈ invocation.program :: invocation.arguments, '\x00' ∉ word.toList

instance (invocation : Invocation) : Decidable invocation.NulFree :=
  inferInstanceAs (Decidable (∀ word ∈ invocation.program :: invocation.arguments, '\x00' ∉ word.toList))

theorem Invocation.readWords?_commandLine {invocation : Invocation} (nulFree : invocation.NulFree) :
    Shell.readWords? invocation.commandLine = some (invocation.program :: invocation.arguments) :=
  Shell.readWords?_joinWords (List.cons_ne_nil _ _) nulFree

theorem runProgram_command {system : System} {stage : Stage} {ignored : IgnoredLines} {invocation : Invocation}
    {interpret : FileStore → Stream → String → Text.Checked Event} {world after : World} {tool : ToolRun}
    (ok : runProgram system stage ignored invocation interpret world = (.ok tool, after)) :
    tool.progress.outcome.command = some invocation.commandLine := by
  unfold runProgram at ok
  dsimp only at ok
  split at ok
  next => cases ok
  next => cases ok
  next =>
    cases ok
    rfl
  next =>
    cases ok
    rfl
  next =>
    cases ok
    exact congrArg Outcome.command (Progress.noteExit_outcome ..)

/-- A shell takes the recorded command for the invocation that it was made from, and for no other one. -/
theorem recorded_command_reproduces {invocation : Invocation} (nulFree : invocation.NulFree) :
    Shell.readWords? invocation.commandLine = some (invocation.program :: invocation.arguments) ∧
      (∀ other : Invocation, other.NulFree → other.commandLine = invocation.commandLine →
        other.program = invocation.program ∧ other.arguments = invocation.arguments) ∧
      ∀ system stage ignored interpret world tool after,
        runProgram system stage ignored invocation interpret world = (.ok tool, after) →
          tool.progress.outcome.command = some invocation.commandLine := by
  have read := Invocation.readWords?_commandLine nulFree
  refine ⟨read, ?single, fun _ _ _ _ _ _ _ => runProgram_command⟩
  intro other alsoFree same
  have words : some (other.program :: other.arguments) = some (invocation.program :: invocation.arguments) := by
    rw [← read, ← same, Invocation.readWords?_commandLine alsoFree]
  exact List.cons.inj (Option.some.inj words)

/-- Words with all kinds of quoting in them, and the same characters parted in another place. -/
theorem quoted_command_reproduces :
    let invocation : Invocation := ⟨"my tool", ["", "it's", "^^$HOME\\\"", "a", "b c\n\x60d!é"], "/", []⟩
    let other : Invocation := ⟨"my tool", ["", "it's", "^^$HOME\\\"", "a b", "c\n\x60d!é"], "/", []⟩
    invocation.NulFree ∧ other.NulFree ∧
      Shell.readWords? invocation.commandLine =
        some ["my tool", "", "it's", "^^$HOME\\\"", "a", "b c\n\x60d!é"] ∧
      other.commandLine ≠ invocation.commandLine := by
  intro invocation other
  have nulFree : invocation.NulFree := by decide
  have alsoFree : other.NulFree := by decide
  obtain ⟨read, single, -⟩ := recorded_command_reproduces nulFree
  refine ⟨nulFree, alsoFree, read, fun same => ?_⟩
  have arguments := (single other alsoFree same).2
  simp [invocation, other] at arguments

end GrammarFlow
