import GrammarFlow.Proofs.CheckSteps
import GrammarFlow.Proofs.DecidedScan
import GrammarFlow.Proofs.MaskedGrammar

/-! What a comment in a grammar says never shows in a check. The look for constructs comes to the comment whatever
it says and blanks it out, and a check sees nothing of a source but its name and its masked text. -/

namespace GrammarFlow

namespace Scan

/-- The offsets of a text at which the next construct is looked for. -/
inductive Reaches (text : List Char) : Nat → Prop
  | start : Reaches text 0
  | plain {offset : Nat} (reached : Reaches text offset) (inside : offset < text.length)
      (none : construct? (text.drop offset) = none) : Reaches text (offset + 1)
  | behind {offset : Nat} {found : Construct} (reached : Reaches text offset)
      (there : construct? (text.drop offset) = some found) : Reaches text (offset + found.length)

/-- The look comes to an offset in the same way whatever follows behind the next character. -/
theorem Reaches.mask {front tail : List Char} {first : Char} {offset : Nat}
    (reached : Reaches (front ++ first :: tail) offset) (before : offset ≤ front.length) :
    ∃ blanked actions, blanked.length = offset ∧ ∀ other, mask (front ++ first :: other) =
      (maskAfter blanked.reverse offset 0 (front.drop offset ++ first :: other)).after blanked actions := by
  induction reached with
  | start => exact ⟨[], [], rfl, fun other => rfl⟩
  | @plain offset reached inside none ih =>
    obtain ⟨blanked, actions, length, ih⟩ := ih (by omega)
    rw [List.drop_append_of_le_length (by omega)] at none
    have plain (other : List Char) : construct? (front.drop offset ++ first :: other) = .none := by
      rw [← none]
      apply decided_construct
      · exact List.ne_nil_of_length_pos (by rw [List.length_drop]; omega)
      · intro found there
        cases none.symm.trans there
    refine ⟨blanked ++ [front[offset]], actions, by simp [length], fun other => ?_⟩
    have later := plain other
    rw [List.drop_eq_getElem_cons before, List.cons_append] at later
    rw [ih other, List.drop_eq_getElem_cons before, List.cons_append, maskAfter_plain later]
    simp
  | @behind offset found reached there ih =>
    obtain ⟨blanked, actions, length, ih⟩ := ih (by omega)
    have positive := (construct?_bounds there).1
    rw [List.drop_append_of_le_length (by omega)] at there
    have same (other : List Char) : construct? (front.drop offset ++ first :: other) = some found := by
      rw [← there]
      apply decided_construct
      · exact List.ne_nil_of_length_pos (by rw [List.length_drop]; omega)
      · intro found' there'
        cases there.symm.trans there'
        rw [List.length_drop]
        omega
    have split := List.take_append_drop found.length (front.drop offset)
    have whole : ((front.drop offset).take found.length).length = found.length := by
      rw [List.length_take, List.length_drop]
      omega
    rw [List.drop_drop] at split
    generalize (front.drop offset).take found.length = piece at split whole
    refine ⟨blanked ++ piece.map blank, actions ++ found.actions blanked.reverse offset piece,
      by simp [length, whole], fun other => ?_⟩
    have there := same other
    rw [← split, List.append_assoc] at there
    rw [ih other, ← split, List.append_assoc, maskAfter_construct there whole (List.ne_nil_of_length_pos (by omega)),
      whole]
    simp

theorem blockCommentLength_closed {content : List Char} (unclosed : ¬ ['*', '/'] <:+: content) (rest : List Char) :
    blockCommentLength (content ++ '*' :: '/' :: rest) = content.length + 2 := by
  induction content with
  | nil => rfl
  | cons c content ih =>
    have inner : ¬ ['*', '/'] <:+: content := fun closed => unclosed (closed.trans (List.suffix_cons c content).isInfix)
    have behind : ¬ (c = '*' ∧ (content ++ '*' :: '/' :: rest).head? = some '/') := by
      rintro ⟨rfl, slash⟩
      cases content with
      | nil => cases slash
      | cons d content =>
        cases slash
        exact unclosed (List.prefix_append ['*', '/'] content).isInfix
    rw [List.cons_append, blockCommentLength_cons, if_neg behind, ih inner, List.length_cons]

structure SameBreaks (content other : List Char) : Prop where
  length : other.length = content.length
  lineFeeds : ∀ offset : Nat, other[offset]? = some '\n' ↔ content[offset]? = some '\n'
  carriageReturns : ∀ offset : Nat, other[offset]? = some '\r' ↔ content[offset]? = some '\r'

theorem SameBreaks.blank {content other : List Char} (same : SameBreaks content other) :
    other.map blank = content.map blank := by
  apply List.ext_getElem
  · rw [List.length_map, List.length_map, same.length]
  · intro offset inside inside'
    rw [List.length_map] at inside inside'
    have lineFeed := same.lineFeeds offset
    have carriageReturn := same.carriageReturns offset
    rw [List.getElem?_eq_getElem inside, List.getElem?_eq_getElem inside', Option.some_inj, Option.some_inj]
      at lineFeed carriageReturn
    rw [List.getElem_map, List.getElem_map]
    by_cases breaks : content[offset] = '\n' ∨ content[offset] = '\r'
    · rcases breaks with here | here
      · rw [here, lineFeed.mpr here]
      · rw [here, carriageReturn.mpr here]
    · have breaks' : ¬ (other[offset] = '\n' ∨ other[offset] = '\r') := by rwa [lineFeed, carriageReturn]
      rw [Scan.blank, Scan.blank, if_neg breaks, if_neg breaks']

def comment (content : List Char) : List Char := '/' :: '*' :: (content ++ ['*', '/'])

theorem construct?_comment {content : List Char} (unclosed : ¬ ['*', '/'] <:+: content) (rest : List Char) :
    construct? (comment content ++ rest) = some (.hidden (comment content).length) := by
  have length := blockCommentLength_closed unclosed rest
  simp [comment, construct?, length]

theorem maskAfter_comment {content : List Char} (unclosed : ¬ ['*', '/'] <:+: content) (before rest : List Char)
    (offset : Nat) : maskAfter before offset 0 (comment content ++ rest) =
      (maskAfter (((comment content).map blank).reverse ++ before) (offset + (comment content).length) 0 rest).after
        ((comment content).map blank) [] :=
  maskAfter_construct (construct?_comment unclosed rest) rfl (List.cons_ne_nil _ _)

/-- What a comment says is not seen in the masked text. -/
theorem mask_comment {front content other rest : List Char}
    (reached : Reaches (front ++ (comment content ++ rest)) front.length) (unclosed : ¬ ['*', '/'] <:+: content)
    (unclosed' : ¬ ['*', '/'] <:+: other) (same : SameBreaks content other) :
    mask (front ++ (comment other ++ rest)) = mask (front ++ (comment content ++ rest)) := by
  obtain ⟨blanked, actions, -, masked⟩ := reached.mask (Nat.le_refl _)
  have blanks : (comment other).map blank = (comment content).map blank := by simp [comment, same.blank]
  have length : (comment other).length = (comment content).length := by simp [comment, same.length]
  have first (content : List Char) : comment content ++ rest = '/' :: '*' :: (content ++ ['*', '/'] ++ rest) := rfl
  rw [first, first, masked, masked, List.drop_length, List.nil_append, List.nil_append, ← first, ← first,
    maskAfter_comment unclosed, maskAfter_comment unclosed', blanks, length]

end Scan

/-- Where a span lies, whatever its source says: the name of the source, the start and the length. -/
def Span.place (span : Span) : String × Nat × Nat := (span.source.name, span.start, span.length)

def Diagnosis.outline (diagnosis : Diagnosis) :
    Option (String × Nat × Nat) × String × Severity × Stage × DiagnosisKind :=
  (diagnosis.span.map Span.place, diagnosis.message, diagnosis.severity, diagnosis.stage, diagnosis.kind)

namespace Declarations

structure SameFindings (report other : GrammarFindings) : Prop where
  grammarName : other.grammarName = report.grammarName
  parserRules : other.parserRules = report.parserRules
  lexerRules : other.lexerRules = report.lexerRules
  fragments : other.fragments.map Span.place = report.fragments.map Span.place
  diagnoses : other.diagnoses.map Diagnosis.outline = report.diagnoses.map Diagnosis.outline

structure SameMask (source other : Source) : Prop where
  name : other.name = source.name
  masked : Scan.mask other.chars = Scan.mask source.chars

namespace Checking

structure Same (checking other : Checking) : Prop where
  report : SameFindings checking.report other.report
  seen : other.seen = checking.seen

variable {checking other : Checking} {source source' : Source}

theorem clampedSpan_place (alike : SameMask source source') (start stop : Nat) :
    (source'.clampedSpan start stop).place = (source.clampedSpan start stop).place := by
  have length : source'.length = source.length := by
    rw [Source.length, Source.length, (Scan.mask_shows source.chars).length_eq,
      (Scan.mask_shows source'.chars).length_eq, alike.masked]
  simp only [Source.clampedSpan, Span.place, alike.name, length]

theorem missing_outline (alike : SameMask source source') :
    (missing source').outline = (missing source).outline := by
  simp [missing, Diagnosis.outline, Diagnosis.located, clampedSpan_place alike]

theorem duplicate_outline (alike : SameMask source source') (rule : Declaration) :
    (duplicate source' rule).outline = (duplicate source rule).outline := by
  simp [duplicate, Diagnosis.outline, Diagnosis.located, clampedSpan_place alike]

theorem Same.addGrammar (same : Same checking other) (alike : SameMask source source') (masked : List Char) :
    Same (checking.addGrammar source masked) (other.addGrammar source' masked) := by
  obtain ⟨⟨grammarName, parserRules, lexerRules, fragments, diagnoses⟩, seen⟩ := same
  rw [addGrammar_eq, addGrammar_eq]
  refine ⟨⟨congrArg (Option.or · _) grammarName, parserRules, lexerRules, fragments, ?_⟩, seen⟩
  rw [List.map_append, List.map_append, diagnoses]
  cases (grammarPattern.find? masked).isSome <;> simp [missing_outline alike]

theorem Same.addRule (same : Same checking other) (alike : SameMask source source') (rule : Declaration) :
    Same (Checking.addRule source checking rule) (Checking.addRule source' other rule) := by
  obtain ⟨⟨grammarName, parserRules, lexerRules, fragments, diagnoses⟩, seen⟩ := same
  by_cases known : rule.name ∈ checking.seen
  · rw [addRule_known known, addRule_known (seen ▸ known)]
    refine ⟨⟨grammarName, parserRules, lexerRules, fragments, ?_⟩, seen⟩
    rw [List.map_append, List.map_append, diagnoses, List.map_singleton, List.map_singleton,
      duplicate_outline alike rule]
  · rw [addRule_new known, addRule_new (seen ▸ known)]
    exact ⟨⟨grammarName, congrArg (· ++ _) parserRules, congrArg (· ++ _) lexerRules, fragments, diagnoses⟩,
      congrArg (rule.name :: ·) seen⟩

theorem Same.addActions (same : Same checking other) (alike : SameMask source source')
    (actions : List (Nat × Nat)) :
    Same (Checking.addActions source actions checking) (Checking.addActions source' actions other) := by
  obtain ⟨⟨grammarName, parserRules, lexerRules, fragments, diagnoses⟩, seen⟩ := same
  refine ⟨⟨grammarName, parserRules, lexerRules, ?_, diagnoses⟩, seen⟩
  simp [Checking.addActions, fragments, clampedSpan_place alike]

theorem Same.addSource (same : Same checking other) (alike : SameMask source source') :
    Same (checking.addSource source) (other.addSource source') := by
  have rules (found : List Declaration) {checking other : Checking} (same : Same checking other) :
      Same (found.foldl (Checking.addRule source) checking) (found.foldl (Checking.addRule source') other) := by
    induction found generalizing checking other with
    | nil => exact same
    | cons rule found ih => exact ih (same.addRule alike rule)
  rw [Checking.addSource, Checking.addSource, alike.masked]
  exact (rules _ (same.addGrammar alike _)).addActions alike _

theorem Same.addSources {sources others : List Source} (alike : List.Forall₂ SameMask sources others)
    (same : Same checking other) :
    Same (sources.foldl Checking.addSource checking) (others.foldl Checking.addSource other) := by
  induction alike generalizing checking other with
  | nil => exact same
  | cons first _ ih =>
    rw [List.foldl_cons, List.foldl_cons]
    exact ih (same.addSource first)

end Checking

/-- A check sees nothing of its sources but their names and their masked texts. -/
theorem check_sameMask {project other : Project} (alike : List.Forall₂ SameMask project.sources other.sources) :
    SameFindings (check project) (check other) :=
  (Checking.Same.addSources alike ⟨⟨rfl, rfl, rfl, rfl, rfl⟩, rfl⟩).report

/-- Whatever a comment says, a check finds the same at the same places. -/
theorem comment_never_shows (project : Project) (earlier later : List Source) (name front content other rest : String)
    (reached : Scan.Reaches (front ++ "/*" ++ content ++ "*/" ++ rest).toList front.length)
    (unclosed : ¬ "*/".toList <:+: content.toList) (unclosed' : ¬ "*/".toList <:+: other.toList)
    (same : Scan.SameBreaks content.toList other.toList) :
    SameFindings
      (check { project with sources := earlier ++ ⟨name, front ++ "/*" ++ content ++ "*/" ++ rest⟩ :: later })
      (check { project with sources := earlier ++ ⟨name, front ++ "/*" ++ other ++ "*/" ++ rest⟩ :: later }) := by
  have chars (content : String) : (front ++ "/*" ++ content ++ "*/" ++ rest).toList =
      front.toList ++ (Scan.comment content.toList ++ rest.toList) := by
    simp [Scan.comment]
  rw [chars] at reached
  have masked : SameMask ⟨name, front ++ "/*" ++ content ++ "*/" ++ rest⟩
      ⟨name, front ++ "/*" ++ other ++ "*/" ++ rest⟩ := by
    refine ⟨rfl, ?_⟩
    rw [Source.chars, Source.chars, chars, chars]
    exact Scan.mask_comment reached unclosed unclosed' same
  have itself (sources : List Source) : List.Forall₂ SameMask sources sources :=
    List.forall₂_same.mpr fun source _ => ⟨rfl, rfl⟩
  exact check_sameMask (List.rel_append (itself earlier) (.cons masked (itself later)))

theorem open_brace_never_shows :
    let front := "a:'\x7b'; "
    let content := "\nb: \x7b '"
    let other := "\né/*a:;"
    let project (comment : String) : Project :=
      ⟨"G", [⟨"L.g4", "lexer grammar L;"⟩, ⟨"G.g4", front ++ "/*" ++ comment ++ "*/" ++ "\nc:;"⟩], none⟩
    Scan.Reaches (front ++ "/*" ++ content ++ "*/" ++ "\nc:;").toList front.length ∧
      ¬ "*/".toList <:+: content.toList ∧ ¬ "*/".toList <:+: other.toList ∧
      Scan.SameBreaks content.toList other.toList ∧
      SameFindings (check (project content)) (check (project other)) := by
  intro front content other project
  have chars : content.toList = ['\n', 'b', ':', ' ', '\x7b', ' ', '\''] := by decide +kernel
  have chars' : other.toList = ['\n', 'é', '/', '*', 'a', ':', ';'] := by decide +kernel
  have whole : (front ++ "/*" ++ content ++ "*/" ++ "\nc:;").toList =
      ['a', ':', '\'', '\x7b', '\'', ';', ' ', '/', '*', '\n', 'b', ':', ' ', '\x7b', ' ', '\'', '*', '/', '\n', 'c',
        ':', ';'] := by decide +kernel
  have length : front.length = 7 := by decide +kernel
  have reached : Scan.Reaches (front ++ "/*" ++ content ++ "*/" ++ "\nc:;").toList front.length := by
    rw [whole, length]
    refine .plain (.plain ?_ (by decide) (by decide)) (by decide) (by decide)
    refine @Scan.Reaches.behind _ 2 (.hidden 3) ?_ (by decide)
    exact .plain (.plain .start (by decide) (by decide)) (by decide) (by decide)
  have unclosed : ¬ "*/".toList <:+: content.toList := by decide +kernel
  have unclosed' : ¬ "*/".toList <:+: other.toList := by decide +kernel
  have same : Scan.SameBreaks content.toList other.toList := by
    rw [chars, chars']
    refine ⟨rfl, ?_, ?_⟩
    all_goals
      intro offset
      cases offset with
      | zero => decide
      | succ offset =>
        rw [List.getElem?_cons_succ, List.getElem?_cons_succ]
        constructor
        all_goals
          intro breaks
          exact absurd (List.mem_of_getElem? breaks) (by decide)
  exact ⟨reached, unclosed, unclosed', same,
    comment_never_shows ⟨"G", [], none⟩ [⟨"L.g4", "lexer grammar L;"⟩] [] "G.g4" front content other "\nc:;" reached
      unclosed unclosed' same⟩

end Declarations

end GrammarFlow
