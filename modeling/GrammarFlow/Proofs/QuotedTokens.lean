import GrammarFlow.Proofs.MarkReading
import GrammarFlow.Proofs.SourceSpans
import GrammarFlow.Transcript.ErrorSpan

/-! Messages that quote a token of the source. The quotes are taken off and the escapes taken back, so the span
of the error covers the token, whatever characters it begins or ends with. -/

namespace GrammarFlow

def escapeInMessage : Char → List Char
  | '\n' => ['\\', 'n']
  | '\r' => ['\\', 'r']
  | '\t' => ['\\', 't']
  | c => [c]

def escape (token : List Char) : List Char := token.flatMap escapeInMessage

def quoteToken (token : String) : String := String.ofList ('\'' :: (escape token.toList ++ ['\'']))

section Escapes

section OneKind
variable {letter meant c : Char} {rest : List Char}

theorem unescapeOne_hit :
    unescapeOne letter meant ('\\' :: letter :: rest) = meant :: unescapeOne letter meant rest :=
  Text.replaceChars_hit rest

theorem unescapeOne_miss (other : c = '\\' → rest.head? ≠ some letter) :
    unescapeOne letter meant (c :: rest) = c :: unescapeOne letter meant rest := by
  have notHere : ¬ ['\\', letter] <+: c :: rest := by
    intro begins
    obtain ⟨backslash, behind⟩ := List.cons_prefix_cons.mp begins
    obtain ⟨later, rfl⟩ := behind
    exact other backslash.symm rfl
  exact Text.replaceChars_miss notHere

theorem unescapeOne_plain (plain : c ≠ '\\') :
    unescapeOne letter meant (c :: rest) = c :: unescapeOne letter meant rest :=
  unescapeOne_miss fun backslash => absurd backslash plain

theorem unescapeOne_other {other : Char} (different : other ≠ letter) (plain : other ≠ '\\') :
    unescapeOne letter meant ('\\' :: other :: rest) = '\\' :: other :: unescapeOne letter meant rest := by
  rw [unescapeOne_miss (by simpa using different), unescapeOne_plain plain]

end OneKind

theorem unescape_cons {c : Char} (plain : c ≠ '\\') (rest : List Char) : unescape (c :: rest) = c :: unescape rest := by
  rw [unescape, unescapeOne_plain plain, unescapeOne_plain plain, unescapeOne_plain plain, unescape]

/-- What is left of a backslash is no escape of a later kind. -/
theorem unescape_escapeInMessage {c : Char} (noBackslash : c ≠ '\\') (rest : List Char) :
    unescape (escapeInMessage c ++ rest) = c :: unescape rest := by
  fun_cases escapeInMessage c with
  | case1 =>
    change unescape ('\\' :: 'n' :: rest) = _
    rw [unescape, unescapeOne_hit, unescapeOne_plain (by decide), unescapeOne_plain (by decide), unescape]
  | case2 =>
    change unescape ('\\' :: 'r' :: rest) = _
    rw [unescape, unescapeOne_other (by decide) (by decide), unescapeOne_hit, unescapeOne_plain (by decide), unescape]
  | case3 =>
    change unescape ('\\' :: 't' :: rest) = _
    rw [unescape, unescapeOne_other (by decide) (by decide), unescapeOne_other (by decide) (by decide),
      unescapeOne_hit, unescape]
  | case4 => rw [List.singleton_append, unescape_cons noBackslash]

theorem unescape_escape {token : List Char} (noBackslash : '\\' ∉ token) : unescape (escape token) = token := by
  induction token with
  | nil => rfl
  | cons c token ih =>
    have plain : c ≠ '\\' := fun same => noBackslash (same ▸ List.mem_cons_self)
    have rest := ih fun member => noBackslash (List.mem_cons_of_mem c member)
    rw [escape] at rest
    rw [escape, List.flatMap_cons, unescape_escapeInMessage plain, rest]

theorem unquote_quoted {token : List Char} (noBackslash : '\\' ∉ token) :
    unquote ('\'' :: (escape token ++ ['\''])) = token := by
  simp [unquote, unescape_escape noBackslash]

end Escapes

namespace Clue

theorem before?_here {needle : List Char} (nonempty : needle ≠ []) (rest : List Char) :
    before? needle (needle ++ rest) = some [] := by
  obtain ⟨c, tail, rfl⟩ := List.exists_cons_of_ne_nil nonempty
  have begins : (c :: tail).isPrefixOf (c :: (tail ++ rest)) = true :=
    List.isPrefixOf_iff_prefix.mpr (List.prefix_append (c :: tail) rest)
  rw [List.cons_append, before?, if_pos begins]

theorem before?_later {needle : List Char} {c : Char} {rest : List Char} (notHere : ¬ needle <+: c :: rest) :
    before? needle (c :: rest) = (before? needle rest).map (c :: ·) := by
  rw [before?, if_neg (mt List.isPrefixOf_iff_prefix.mp notHere)]

/-- What begins in front of a quote and has none in it ends in front of it too. -/
private theorem prefix_of_noQuote {needle front back : List Char} (noQuote : '\'' ∉ needle)
    (begins : needle <+: front ++ '\'' :: back) : needle <+: front := by
  rcases List.prefix_or_prefix_of_prefix begins (List.prefix_append front ('\'' :: back)) with within | beyond
  · exact within
  · obtain ⟨tail, rfl⟩ := beyond
    cases tail with
    | nil => exact (List.append_nil front).symm ▸ List.prefix_rfl
    | cons c tail =>
      obtain ⟨rfl, -⟩ := List.cons_prefix_cons.mp ((List.prefix_append_right_inj front).mp begins)
      simp at noQuote

theorem before?_quoted {needle : List Char} (noQuote : '\'' ∉ needle) (rest : List Char) {quoted : List Char}
    (absent : ¬ needle <:+: quoted) :
    before? needle (quoted ++ '\'' :: (needle ++ rest)) = some (quoted ++ ['\'']) := by
  induction quoted with
  | nil =>
    have nonempty : needle ≠ [] := fun none => absent (none ▸ List.infix_rfl)
    have notHere : ¬ needle <+: [] ++ '\'' :: (needle ++ rest) := fun begins =>
      absent (prefix_of_noQuote noQuote begins).isInfix
    rw [List.nil_append] at notHere ⊢
    rw [before?_later notHere, before?_here nonempty]
    rfl
  | cons c quoted ih =>
    have notHere : ¬ needle <+: c :: (quoted ++ '\'' :: (needle ++ rest)) := fun begins =>
      absent (prefix_of_noQuote noQuote begins).isInfix
    have notBehind : ¬ needle <:+: quoted := fun within => absent (List.infix_cons within)
    rw [List.cons_append, before?_later notHere, ih notBehind]
    rfl

theorem before?_quoteToken {needle : List Char} (noQuote : '\'' ∉ needle) (rest : List Char) {token : String}
    (absent : ¬ needle <:+: escape token.toList) :
    before? needle ((quoteToken token).toList ++ (needle ++ rest)) = some (quoteToken token).toList := by
  have notHere : ¬ needle <+: [] ++ '\'' :: (escape token.toList ++ '\'' :: (needle ++ rest)) := fun begins =>
    absent ((prefix_of_noQuote noQuote begins).trans (List.nil_prefix)).isInfix
  rw [List.nil_append] at notHere
  rw [quoteToken, String.toList_ofList, List.cons_append, List.append_assoc, List.singleton_append,
    before?_later notHere, before?_quoted noQuote rest absent]
  rfl

theorem ofMessage_unrecognized (quoted : List Char) :
    ofMessage ("token recognition error at: ".toList ++ quoted) = some (.token quoted) := by
  rw [ofMessage, dropLead_append]

theorem ofMessage_extraneous (behind : List Char) :
    ofMessage ("extraneous input ".toList ++ behind) = (before? " expecting ".toList behind).map token := by
  have different : dropLead "token recognition error at: ".toList ("extraneous input ".toList ++ behind) = none := by
    simp [dropLead]
  have notMissing : "missing ".toList.isPrefixOf ("extraneous input ".toList ++ behind) = false := by
    simp [List.isPrefixOf]
  rw [ofMessage, different, dropLead_append]
  simp only [notMissing]
  rfl

theorem ofMessage_mismatched (behind : List Char) :
    ofMessage ("mismatched input ".toList ++ behind) = (before? " expecting ".toList behind).map token := by
  have different : dropLead "token recognition error at: ".toList ("mismatched input ".toList ++ behind) = none := by
    simp [dropLead]
  have notMissing : "missing ".toList.isPrefixOf ("mismatched input ".toList ++ behind) = false := by
    simp [List.isPrefixOf]
  have notExtraneous : dropLead "extraneous input ".toList ("mismatched input ".toList ++ behind) = none := by
    simp [dropLead]
  rw [ofMessage, different, notExtraneous, dropLead_append]
  simp only [notMissing]
  rfl

end Clue

section Covered
variable {source : Source} {start : Nat} {token message : String}

def Covers (source : Source) (start : Nat) (message text : String) : Prop :=
  source.span start text.length = .ok (errorSpan source start message) ∧ (errorSpan source start message).text = text

theorem covers_of_clue (there : source.HasAt start token) (noBackslash : '\\' ∉ token.toList)
    (notEnd : token ≠ "<EOF>") (clue : Clue.ofMessage message.toList = some (.token (quoteToken token).toList)) :
    Covers source start message token := by
  have length : quotedLength (unquote (quoteToken token).toList) = token.length := by
    rw [quoteToken, String.toList_ofList, unquote_quoted noBackslash, quotedLength,
      if_neg (mt String.toList_inj.mp notEnd), String.length_toList]
  have span : errorSpan source start message = ⟨source, start, token.length, there.inside⟩ := by
    simp only [errorSpan, clue, length]
    exact Source.clampedSpan_eq there.inside
  rw [Covers, span]
  exact ⟨dif_pos there.inside, there.text⟩

/-- An error at a place where the token of the message stands is shown on that token. -/
theorem quoted_tokens_covered (there : source.HasAt start token) (noBackslash : '\\' ∉ token.toList)
    (notEnd : token ≠ "<EOF>") :
    Covers source start ("token recognition error at: " ++ quoteToken token) token ∧
      (¬ " expecting ".toList <:+: escape token.toList → ∀ expected,
        Covers source start ("extraneous input " ++ quoteToken token ++ " expecting " ++ expected) token ∧
        Covers source start ("mismatched input " ++ quoteToken token ++ " expecting " ++ expected) token) := by
  have noQuote : '\'' ∉ " expecting ".toList := by decide
  refine ⟨covers_of_clue there noBackslash notEnd ?_, fun absent expected => ⟨?_, ?_⟩⟩
  · rw [String.toList_append, Clue.ofMessage_unrecognized]
  · apply covers_of_clue there noBackslash notEnd
    rw [String.toList_append, String.toList_append, String.toList_append, List.append_assoc, List.append_assoc,
      Clue.ofMessage_extraneous, Clue.before?_quoteToken noQuote _ absent, Option.map_some]
  · apply covers_of_clue there noBackslash notEnd
    rw [String.toList_append, String.toList_append, String.toList_append, List.append_assoc, List.append_assoc,
      Clue.ofMessage_mismatched, Clue.before?_quoteToken noQuote _ absent, Option.map_some]

/-- A token between quotes with a tab in it, and a message that says more than once that it expects something. -/
theorem quotes_and_tab_covered :
    let source : Source := ⟨"input.txt", "a '\t' b"⟩
    source.HasAt 2 "'\t'" ∧ '\\' ∉ "'\t'".toList ∧ "'\t'" ≠ "<EOF>" ∧
      ¬ " expecting ".toList <:+: escape "'\t'".toList ∧
      Covers source 2 "token recognition error at: ''\\t''" "'\t'" ∧
      Covers source 2 "extraneous input ''\\t'' expecting ID" "'\t'" ∧
      Covers source 2 "mismatched input ''\\t'' expecting ' expecting '" "'\t'" := by
  intro source
  have there : source.HasAt 2 "'\t'" := by decide +kernel
  have noBackslash : '\\' ∉ "'\t'".toList := by decide
  have notEnd : "'\t'" ≠ "<EOF>" := by decide
  have absent : ¬ " expecting ".toList <:+: escape "'\t'".toList := by decide +kernel
  have covered := quoted_tokens_covered there noBackslash notEnd
  exact ⟨there, noBackslash, notEnd, absent, covered.1, (covered.2 absent "ID").1,
    (covered.2 absent "' expecting '").2⟩

end Covered

end GrammarFlow
