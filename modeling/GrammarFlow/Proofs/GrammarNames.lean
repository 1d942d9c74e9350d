import GrammarFlow.Files.Resolve
import GrammarFlow.Proofs.CheckSteps
import GrammarFlow.Proofs.MatchedPieces

/-!
The names of grammars. A grammar declaration names its grammar by an identifier, and what is left of one without the
ending of a lexer or parser is an identifier still; so the name of a grammar can be the name of a folder.
-/

namespace GrammarFlow.Declarations

def Accepts (name : String) : Prop := ∃ project, (check project).grammarName = some name

def inName (c : Char) : Prop := c ≠ '/' ∧ c ≠ '.'

theorem isName_of_inName {name : String} (some : name ≠ "") (proper : ∀ c ∈ name.toList, inName c) :
    Path.IsName name := by
  have dotless : '.' ∉ name.toList := fun member => (proper _ member).2 rfl
  have slashless : '/' ∉ name.toList := fun member => (proper _ member).1 rfl
  refine ⟨some, ?_, ?_, slashless⟩
  all_goals
    rintro rfl
    exact absurd List.mem_cons_self dotless

theorem name_inName : name.Only inName := by
  refine ⟨?_, ?_⟩
  all_goals
    intro c holds
    refine ⟨?_, ?_⟩
    all_goals
      rintro rfl
      revert holds
      decide

theorem grammarPattern_reads {offset : Nat} {piece : List Char} {gained : List Capture}
    (reads : grammarPattern.Reads offset piece gained) :
    ∃ start text, text ≠ [] ∧ (∀ c ∈ text, inName c) ∧ gained.find? (·.name = "name") = some ⟨"name", start, text⟩ := by
  obtain ⟨p₁, rest, later, g₁, rfl, rfl, lineStart, reads⟩ := reads.sequence_cons
  obtain ⟨p₂, rest, later, g₂, rfl, rfl, indented, reads⟩ := reads.sequence_cons
  obtain ⟨p₃, rest, later, g₃, rfl, rfl, kind, reads⟩ := reads.sequence_cons
  obtain ⟨p₄, rest, later, g₄, rfl, rfl, keyword, reads⟩ := reads.sequence_cons
  obtain ⟨p₅, rest, later, g₅, rfl, rfl, spaced, reads⟩ := reads.sequence_cons
  obtain ⟨text, rest, later, g₆, rfl, rfl, named, reads⟩ := reads.sequence_cons
  cases reads.captures_nothing (by decide)
  cases named with
  | group named =>
    refine ⟨_, text, ?_, named.characters name_inName, rfl⟩
    cases named with
    | seq first =>
      cases first
      exact List.cons_ne_nil _ _

theorem withoutEnding?_eq_some {ending name base : String} (cut : Project.withoutEnding? ending name = some base) :
    base ≠ "" ∧ ∀ c ∈ base.toList, c ∈ name.toList := by
  rw [Project.withoutEnding?] at cut
  obtain ⟨kept, same⟩ := Option.ite_none_right_eq_some.1 cut
  cases same
  have some := (Bool.and_eq_true_iff.1 kept).1
  refine ⟨?_, ?_⟩
  · apply mt String.ofList_eq_empty_iff.1
    simpa using some
  · intro c member
    rw [String.toList_ofList] at member
    exact List.mem_of_mem_take member

theorem isName_declaredGrammar {text : List Char} {found : Match} (there : grammarPattern.find? text = some found) :
    Path.IsName (declaredGrammar found) := by
  obtain ⟨front, piece, split, begins, ends, reads⟩ := Pattern.findFrom_finds there
  obtain ⟨start, name, some, proper, named⟩ := grammarPattern_reads reads
  have capture : found.capture? "name" = Option.some ⟨"name", start, name⟩ := named
  rw [← String.toList_ofList (l := name)] at proper
  have whole : Path.IsName (String.ofList name) := isName_of_inName (mt String.ofList_eq_empty_iff.1 some) proper
  have shorter (ending : String) :
      Path.IsName ((Project.withoutEnding? ending (String.ofList name)).getD (String.ofList name)) := by
    cases cut : Project.withoutEnding? ending (String.ofList name) with
    | none => exact whole
    | some base =>
      obtain ⟨some, front⟩ := withoutEnding?_eq_some cut
      exact isName_of_inName some fun c member => proper c (front c member)
  rw [declaredGrammar, capture]
  dsimp only [Option.map_some, Option.getD_some]
  split
  · exact shorter "Lexer"
  · exact shorter "Parser"
  · exact whole

namespace Checking

theorem grammarName_addRules (source : Source) (found : List Declaration) (checking : Checking) :
    (found.foldl (addRule source) checking).report.grammarName = checking.report.grammarName := by
  induction found generalizing checking with
  | nil => rfl
  | cons rule found ih =>
    rw [List.foldl_cons, ih]
    by_cases known : rule.name ∈ checking.seen
    · rw [addRule_known known]
    · rw [addRule_new known]

theorem grammarName_addSource (checking : Checking) (source : Source) :
    (checking.addSource source).report.grammarName = checking.report.grammarName.or
      ((grammarPattern.find? (Scan.mask source.chars).text).map declaredGrammar) := by
  rw [addSource, addActions, grammarName_addRules, addGrammar_eq]

end Checking

/-- The name of a grammar can be the name of a folder. -/
theorem Accepts.isName {name : String} (accepted : Accepts name) : Path.IsName name := by
  obtain ⟨project, declared⟩ := accepted
  have kept (sources : List Source) (checking : Checking)
      (sound : ∀ name, checking.report.grammarName = some name → Path.IsName name) :
      ∀ name, (sources.foldl Checking.addSource checking).report.grammarName = some name → Path.IsName name := by
    induction sources generalizing checking with
    | nil => exact sound
    | cons source sources ih =>
      refine ih _ fun name declared => ?_
      rw [Checking.grammarName_addSource] at declared
      obtain earlier | ⟨-, here⟩ := Option.or_eq_some_iff.1 declared
      · exact sound name earlier
      · obtain ⟨found, there, rfl⟩ := Option.map_eq_some_iff.1 here
        exact isName_declaredGrammar there
  refine kept project.sources ⟨.empty, []⟩ ?_ name declared
  intro name none
  cases none

theorem two_accepted : ∃ name other, Accepts name ∧ Accepts other ∧ name ≠ other :=
  ⟨"a", "b", ⟨.ofSources [⟨"a.g4", "grammar a;"⟩], by decide +kernel⟩,
    ⟨.ofSources [⟨"b.g4", "grammar b;"⟩], by decide +kernel⟩, by decide⟩

end GrammarFlow.Declarations
