import GrammarFlow.Proofs.TranscriptLines
import GrammarFlow.Transcript.TokenDump

/-!
Reading a token dump. A name ends at the first space or opening parenthesis, and a text at the first
closing parenthesis with a space behind it; a reader that starts at an entry of a dump thus stops at
the next. The word `EOF` counts as the end of the dump only where nothing follows it.
-/

namespace GrammarFlow

/-- The first place where two characters stand together, behind a text that does not hold them. -/
theorem Clue.before?_pair {a b : Char} {text : List Char} (rest : List Char) (different : a ≠ b)
    (absent : ¬ [a, b] <:+: text) : before? [a, b] (text ++ a :: b :: rest) = some text := by
  induction text with
  | nil => simp [before?]
  | cons c text ih =>
    rw [List.infix_cons_iff, not_or] at absent
    have here : ¬ [a, b] <+: c :: (text ++ a :: b :: rest) := by
      cases text with
      | nil =>
        rintro begins
        exact different (List.cons_prefix_cons.mp (List.cons_prefix_cons.mp begins).2).1.symm
      | cons d text => simpa [List.cons_prefix_cons] using absent.1
    simp [before?, here, ih absent.2]

namespace TokenDump

section Shown
variable {name text : String} {chars : List Char} {c : Char}

theorem mem_withoutBreaks : c ∈ withoutBreaks chars ↔ c ∈ chars ∧ c ≠ '\r' ∧ c ≠ '\n' := by
  simp [withoutBreaks]

theorem withoutBreaks_eq_self (oneLine : ∀ c ∈ chars, c ≠ '\r' ∧ c ≠ '\n') : withoutBreaks chars = chars := by
  rw [withoutBreaks, List.filter_eq_self]
  simpa using oneLine

theorem withoutBreaks_twice (chars : List Char) : withoutBreaks (withoutBreaks chars) = withoutBreaks chars :=
  withoutBreaks_eq_self fun _ member => (mem_withoutBreaks.mp member).2

theorem shownText_whole (short : (withoutBreaks chars).length ≤ longestText) :
    shownText chars = withoutBreaks chars := if_pos short

theorem shownText_cut (long : longestText < (withoutBreaks chars).length) :
    shownText chars = (withoutBreaks chars).take longestText ++ "...".toList := if_neg (Nat.not_le_of_lt long)

theorem oneLine_of_mem_shownText (member : c ∈ shownText chars) : c ≠ '\r' ∧ c ≠ '\n' := by
  by_cases short : (withoutBreaks chars).length ≤ longestText
  · rw [shownText_whole short] at member
    exact (mem_withoutBreaks.mp member).2
  · rw [shownText_cut (Nat.lt_of_not_le short)] at member
    rcases List.mem_append.mp member with taken | dot
    · exact (mem_withoutBreaks.mp (List.mem_of_mem_take taken)).2
    · obtain rfl : c = '.' := by simpa using dot
      decide

/-- A token's line breaks do not count in what the dump shows of it. -/
theorem shown_withoutBreaks (name : String) (chars : List Char) :
    isNamesake name (withoutBreaks chars) = isNamesake name chars ∧
      shownText (withoutBreaks chars) = shownText chars := by
  constructor
  · rw [isNamesake, isNamesake, withoutBreaks_twice]
  · rw [shownText, shownText, withoutBreaks_twice]

theorem oneLine_of_mem_entry (oneLine : ∀ c ∈ name.toList, c ≠ '\r' ∧ c ≠ '\n')
    (member : c ∈ (entry name text).toList) : c ≠ '\r' ∧ c ≠ '\n' := by
  by_cases namesake : isNamesake name text.toList = true
  · simp only [entry, if_pos namesake, String.toList_append, List.mem_append] at member
    rcases member with named | space
    · exact oneLine c named
    · obtain rfl : c = ' ' := by simpa using space
      decide
  · simp only [entry, if_neg namesake, String.toList_append, String.toList_ofList, List.mem_append] at member
    rcases member with ((named | opening) | shown) | closing
    · exact oneLine c named
    · obtain rfl : c = '(' := by simpa using opening
      decide
    · exact oneLine_of_mem_shownText shown
    · obtain rfl | rfl : c = ')' ∨ c = ' ' := by simpa using closing
      all_goals decide

end Shown

structure Readable (name : String) : Prop where
  nonempty : name ≠ ""
  noSpace : ' ' ∉ name.toList
  noParen : '(' ∉ name.toList

instance (name : String) : Decidable (Readable name) :=
  decidable_of_iff (name ≠ "" ∧ ' ' ∉ name.toList ∧ '(' ∉ name.toList)
    ⟨fun ⟨nonempty, noSpace, noParen⟩ => ⟨nonempty, noSpace, noParen⟩,
      fun ⟨nonempty, noSpace, noParen⟩ => ⟨nonempty, noSpace, noParen⟩⟩

def shownEntry (name text : String) : TokenEntry :=
  ⟨name, if isNamesake name text.toList then none else some (String.ofList (shownText text.toList))⟩

section Entries
variable {name : String} (readable : Readable name)
include readable

private theorem span_name {c : Char} (rest : List Char) (stop : isNameChar c = false) :
    (name.toList ++ c :: rest).takeWhile isNameChar = name.toList ∧
      (name.toList ++ c :: rest).dropWhile isNameChar = c :: rest := by
  have inside : ∀ d ∈ name.toList, isNameChar d = true := by
    intro d member
    simp only [isNameChar, Bool.and_eq_true, decide_eq_true_eq]
    exact ⟨fun same => readable.noSpace (same ▸ member), fun same => readable.noParen (same ▸ member)⟩
  rw [List.takeWhile_append_of_pos inside, List.dropWhile_append_of_pos inside]
  simp [stop]

theorem readEntry_bare (rest : List Char) :
    readEntry (name.toList ++ ' ' :: rest) = (⟨name, none⟩, rest.dropWhile (· = ' ')) := by
  obtain ⟨front, back⟩ := span_name readable rest (c := ' ') (by decide)
  simp [readEntry, front, back]

theorem readEntry_shown {text : List Char} (rest : List Char) (closed : ¬ [')', ' '] <:+: text) :
    readEntry (name.toList ++ '(' :: (text ++ ')' :: ' ' :: rest)) =
      (⟨name, some (String.ofList text)⟩, rest.dropWhile (· = ' ')) := by
  obtain ⟨front, back⟩ := span_name readable (text ++ ')' :: ' ' :: rest) (c := '(') (by decide)
  have found := Clue.before?_pair rest (by decide) closed
  simp [readEntry, front, back, found]

theorem readEntry_entry {text : String} {rest : List Char} (closed : ¬ [')', ' '] <:+: shownText text.toList)
    (next : ¬ rest.head? = some ' ') :
    readEntry ((entry name text).toList ++ rest) = (shownEntry name text, rest) := by
  have kept : rest.dropWhile (· = ' ') = rest := by
    cases rest with
    | nil => rfl
    | cons c rest =>
      have other : ¬ c = ' ' := by simpa using next
      simp [other]
  by_cases namesake : isNamesake name text.toList = true
  · have written : (entry name text).toList ++ rest = name.toList ++ ' ' :: rest := by simp [entry, namesake]
    rw [written, readEntry_bare readable, kept, shownEntry, if_pos namesake]
  · have written : (entry name text).toList ++ rest =
        name.toList ++ '(' :: (shownText text.toList ++ ')' :: ' ' :: rest) := by simp [entry, namesake]
    rw [written, readEntry_shown readable rest closed, kept, shownEntry, if_neg namesake]

end Entries

def dumpChars (tokens : List (String × String)) : List Char :=
  tokens.flatMap (fun token => (entry token.1 token.2).toList) ++ "EOF".toList

theorem Builder.finish_foldl_push (dump : Builder) (tokens : List (String × String)) :
    (tokens.foldl (fun dump token => dump.push token.1 token.2) dump).finish.toList =
      dump.written.toList ++ dumpChars tokens := by
  induction tokens generalizing dump with
  | nil => simp [Builder.finish, dumpChars]
  | cons token tokens ih =>
    rw [List.foldl_cons, ih]
    simp [Builder.push, dumpChars]

theorem render_chars (tokens : List (String × String)) :
    (render tokens).toList = dumpChars tokens :=
  Builder.start.finish_foldl_push tokens

/-- Whatever the texts of the tokens are, a dump is one line. -/
theorem render_oneLine {tokens : List (String × String)}
    (names : ∀ token ∈ tokens, ∀ c ∈ token.1.toList, c ≠ '\r' ∧ c ≠ '\n') :
    ∀ c ∈ (render tokens).toList, c ≠ '\r' ∧ c ≠ '\n' := by
  intro c member
  rw [render_chars, dumpChars, List.mem_append] at member
  rcases member with inEntry | ending
  · obtain ⟨token, among, inEntry⟩ := List.mem_flatMap.mp inEntry
    exact oneLine_of_mem_entry (names token among) inEntry
  · obtain rfl | rfl | rfl : c = 'E' ∨ c = 'O' ∨ c = 'F' := by simpa using ending
    all_goals decide

theorem head?_dumpChars {tokens : List (String × String)} (names : ∀ token ∈ tokens, Readable token.1) :
    dumpChars tokens ≠ [] ∧ ¬ (dumpChars tokens).head? = some ' ' := by
  cases tokens with
  | nil => decide
  | cons token tokens =>
    have readable := names token List.mem_cons_self
    obtain ⟨c, others, chars⟩ := List.exists_cons_of_ne_nil (mt String.toList_eq_nil_iff.mp readable.nonempty)
    have noSpace := readable.noSpace
    rw [chars] at noSpace
    have other : ¬ c = ' ' := fun same => noSpace (by simp [same])
    have begins : ∃ rest, dumpChars (token :: tokens) = c :: rest := by
      by_cases namesake : isNamesake token.1 token.2.toList = true <;>
        simp [dumpChars, entry, namesake, chars]
    obtain ⟨rest, text⟩ := begins
    simp [text, other]

theorem readEntries_dumpChars {tokens : List (String × String)} (names : ∀ token ∈ tokens, Readable token.1)
    (closed : ∀ token ∈ tokens, ¬ [')', ' '] <:+: shownText token.2.toList) :
    readEntries (dumpChars tokens) = tokens.map fun token => shownEntry token.1 token.2 := by
  induction tokens with
  | nil =>
    rw [readEntries]
    decide
  | cons token tokens ih =>
    obtain ⟨readable, others⟩ := List.forall_mem_cons.mp names
    obtain ⟨here, later⟩ := List.forall_mem_cons.mp closed
    obtain ⟨behind, next⟩ := head?_dumpChars others
    have read : readEntry (dumpChars (token :: tokens)) = (shownEntry token.1 token.2, dumpChars tokens) := by
      have split : dumpChars (token :: tokens) = (entry token.1 token.2).toList ++ dumpChars tokens := by
        simp [dumpChars]
      rw [split]
      exact readEntry_entry readable here next
    rw [readEntries, dif_neg (head?_dumpChars names).1]
    simp only [read, behind, and_false, if_false, ih others later, List.map_cons]

/-- A dump ends in `EOF`, so there is nothing to trim. -/
theorem read_render {tokens : List (String × String)} (names : ∀ token ∈ tokens, Readable token.1)
    (closed : ∀ token ∈ tokens, ¬ [')', ' '] <:+: shownText token.2.toList) :
    read (render tokens) = tokens.map fun token => shownEntry token.1 token.2 := by
  have untrimmed : Text.trimEndChars Text.isBlank (dumpChars tokens) = dumpChars tokens := by
    have letter : ¬ Text.isBlank 'F' = true := by decide
    simp [Text.trimEndChars, dumpChars, letter]
  rw [read, render_chars, untrimmed, readEntries_dumpChars names closed]

end TokenDump

/-- A token dump is stored as it was printed, and every token is read back in it. -/
theorem Transcript.tokens_line (output : Transcript) {tokens : List (String × String)}
    (names : ∀ token ∈ tokens, TokenDump.Readable token.1)
    (closed : ∀ token ∈ tokens, ¬ [')', ' '] <:+: TokenDump.shownText token.2.toList) :
    let dump := TokenDump.render tokens
    output.line .out ("Tokens " ++ dump) = output.receive (.tokens dump) ∧
      (output.line .out ("Tokens " ++ dump)).artifacts.tokens = some dump ∧
      TokenDump.read dump = tokens.map fun (name, text) =>
        if TokenDump.isNamesake name text.toList then ⟨name, none⟩
        else ⟨name, some (String.ofList (TokenDump.shownText text.toList))⟩ := by
  intro dump
  have received : output.line .out ("Tokens " ++ dump) = output.receive (.tokens dump) :=
    congrArg output.receive (resultEvent_tokens dump)
  refine ⟨received, by rw [received]; rfl, ?_⟩
  rw [TokenDump.read_render names closed]
  apply List.map_congr_left
  intro token _
  simp only [TokenDump.shownEntry]
  split <;> rfl

/-- A token that is named like the end of the dump, one whose text is cut behind a line break, one whose text has a
space behind an open parenthesis and ends with a closed one, and one that is its name but for a line break and case. -/
theorem Transcript.tokens_line_shapes :
    let tokens := [("STRING", "'a\nlong string'"), ("CALL", "f (x)"), ("NAME", "na\r\nme"), ("EOF", "eof")]
    let dump := TokenDump.render tokens
    let output := start none .parserMessage .absent
    (∀ token ∈ tokens, TokenDump.Readable token.1) ∧
      (∀ token ∈ tokens, ¬ [')', ' '] <:+: TokenDump.shownText token.2.toList) ∧
      (output.line .out ("Tokens " ++ dump)).artifacts.tokens = some dump ∧
      TokenDump.read dump =
        [⟨"STRING", some "'along s..."⟩, ⟨"CALL", some "f (x)"⟩, ⟨"NAME", none⟩, ⟨"EOF", none⟩] := by
  intro tokens dump output
  have names : ∀ token ∈ tokens, TokenDump.Readable token.1 := by decide
  have closed : ∀ token ∈ tokens, ¬ [')', ' '] <:+: TokenDump.shownText token.2.toList := by decide +kernel
  obtain ⟨-, stored, shown⟩ := output.tokens_line names closed
  have string : TokenDump.isNamesake "STRING" "'a\nlong string'".toList = false := by decide +kernel
  have call : TokenDump.isNamesake "CALL" "f (x)".toList = false := by decide +kernel
  have name : TokenDump.isNamesake "NAME" "na\r\nme".toList = true := by decide +kernel
  have eof : TokenDump.isNamesake "EOF" "eof".toList = true := by decide +kernel
  have cut : String.ofList (TokenDump.shownText "'a\nlong string'".toList) = "'along s..." := by decide
  have whole : String.ofList (TokenDump.shownText "f (x)".toList) = "f (x)" := by decide
  refine ⟨names, closed, stored, shown.trans ?_⟩
  simp only [tokens, List.map_cons, List.map_nil, string, call, name, eof, cut, whole, if_true, Bool.false_eq_true,
    if_false]

end GrammarFlow
