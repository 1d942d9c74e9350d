import Mathlib.Data.List.Induction
import GrammarFlow.Grammar.RuleTable
import GrammarFlow.Proofs.CheckSteps
import GrammarFlow.Proofs.MaskedGrammar
import GrammarFlow.Proofs.TextEncoding
import GrammarFlow.Proofs.WholeTexts

/-! The rules that a grammar declares. A declaration is found in the masked text and stands at the same place of the
source. The first one of a name counts, and every later one is reported there. -/

namespace GrammarFlow

namespace Scan

theorem Shows.eq {c d : Char} (kept : Shows c d) (visible : d ≠ ' ') : c = d := by
  rcases kept with same | ⟨blank, -⟩
  · exact same.symm
  · exact absurd blank visible

theorem prefix_of_shows {text visible later : List Char} (kept : List.Forall₂ Shows text (visible ++ later))
    (noBlank : ∀ c ∈ visible, c ≠ ' ') : visible <+: text := by
  induction visible generalizing text with
  | nil => exact List.nil_prefix
  | cons c visible ih =>
    cases kept with
    | cons first rest =>
      rw [first.eq (noBlank c List.mem_cons_self)]
      exact List.cons_prefix_cons.mpr ⟨rfl, ih rest fun d member => noBlank d (List.mem_cons_of_mem c member)⟩

end Scan

theorem RuleTable.names_ofList {rules : List String} (distinct : rules.Nodup) : (ofList rules).names = rules := by
  have later (rules : List String) (table : RuleTable) (distinct : (table.names ++ rules).Nodup) :
      (rules.foldl add table).names = table.names ++ rules := by
    induction rules generalizing table with
    | nil => simp
    | cons rule rules ih =>
      have new : rule ∉ table.names := by
        intro known
        exact (List.nodup_append.mp distinct).2.2 rule known rule List.mem_cons_self rfl
      have added : (table.add rule).names = table.names ++ [rule] := by rw [add, dif_neg new]
      rw [List.foldl_cons, ih, added, List.append_assoc, List.singleton_append]
      rwa [added, List.append_assoc, List.singleton_append]
  exact later rules empty distinct

namespace Declarations

section Matches

theorem name_only : name.Only (· ≠ ' ') := by
  refine ⟨?_, ?_⟩
  all_goals
    rintro c holds rfl
    revert holds
    decide

def IsModifier (text : List Char) : Prop :=
  ∃ word ∈ ["public", "private", "protected", "fragment"], ∃ blanks,
    text = word.toList ++ blanks ∧ blanks ≠ [] ∧ ∀ c ∈ blanks, Text.isBlank c = true

theorem isModifier_of_reads {offset : Nat} {piece : List Char} {gained : List Capture}
    (reads : Pattern.Reads (.choices [.text "public", .text "private", .text "protected", .text "fragment"] ++
      someBlanks) offset piece gained) : IsModifier piece := by
  cases reads with
  | seq word behind =>
    obtain ⟨option, member, word⟩ := word.choices (List.cons_ne_nil _ _)
    obtain ⟨literal, known, rfl⟩ : ∃ literal ∈ ["public", "private", "protected", "fragment"],
        Pattern.text literal = option := List.mem_map.mp member
    obtain ⟨rfl, -⟩ := word.text
    refine ⟨literal, known, _, rfl, ?_, behind.characters fun c holds => holds⟩
    cases behind with
    | plus first =>
      cases first with
      | one => exact List.cons_ne_nil _ _

theorem IsModifier.trim_iff {text : List Char} (modifier : IsModifier text) :
    Text.trim (String.ofList text) = "fragment" ↔ "fragment".toList <+: text := by
  obtain ⟨word, known, blanks, rfl, -, blank⟩ := modifier
  have visible : ∀ word ∈ ["public", "private", "protected", "fragment"],
      word.toList.all (fun c => Text.isBlank c = false) = true := by decide
  rw [Text.trim, String.toList_ofList, Text.trimChars_append (by simpa using visible word known) blank,
    String.ofList_toList]
  simp only [List.mem_cons, List.not_mem_nil, or_false] at known
  rcases known with rfl | rfl | rfl | rfl <;> simp

theorem rulePattern_reads {offset : Nat} {piece : List Char} {gained : List Capture}
    (reads : rulePattern.Reads offset piece gained) :
    ∃ lead text tail, piece = lead ++ (text ++ tail) ∧ (∀ c ∈ text, c ≠ ' ') ∧
      gained.find? (·.name = "name") = some ⟨"name", offset + lead.length, text⟩ ∧
      ∀ modifier ∈ gained.find? (·.name = "modifier"), IsModifier modifier.text := by
  obtain ⟨p₁, rest, later, g₁, rfl, rfl, lineStart, reads⟩ := reads.sequence_cons
  obtain ⟨p₂, rest, later, g₂, rfl, rfl, blanks, reads⟩ := reads.sequence_cons
  obtain ⟨p₃, rest, later, g₃, rfl, rfl, modified, reads⟩ := reads.sequence_cons
  obtain ⟨text, rest, later, g₄, rfl, rfl, named, reads⟩ := reads.sequence_cons
  cases reads.captures_nothing (by decide)
  cases lineStart.captures_nothing (by decide)
  cases blanks.captures_nothing (by decide)
  cases named with
  | group named =>
    cases named.captures_nothing (by decide)
    refine ⟨p₁ ++ (p₂ ++ p₃), text, rest, by simp, named.characters name_only, ?_, ?_⟩
    · simp [Nat.add_assoc]
    · cases modified with
      | skip => simp
      | taken modified =>
        cases modified with
        | group modified =>
          cases modified.captures_nothing (by decide)
          simpa using isModifier_of_reads modified

/-- What a match has captured: a name that is visible in the masked text, and in front of it a modifier or nothing. -/
structure Captured (masked : List Char) (found : Match) (name : Capture) : Prop where
  named : found.capture? "name" = some name
  modified : ∀ modifier ∈ found.capture? "modifier", IsModifier modifier.text
  inside : name.start ≤ masked.length
  there : name.text <+: masked.drop name.start
  visible : ∀ c ∈ name.text, c ≠ ' '

theorem exists_captured {masked : List Char} {found : Match} (there : found ∈ rulePattern.findAll masked) :
    ∃ name, Captured masked found name := by
  obtain ⟨front, piece, rfl, start, -, reads⟩ := Pattern.findAll_finds there
  obtain ⟨lead, text, tail, rfl, visible, named, modified⟩ := rulePattern_reads reads
  have split : front ++ (lead ++ (text ++ tail) ++ found.stop.rest) =
      (front ++ lead) ++ (text ++ (tail ++ found.stop.rest)) := by simp
  have place : found.start + lead.length = (front ++ lead).length := by simp [start]
  refine ⟨⟨"name", found.start + lead.length, text⟩, named, modified, ?_, ?_, visible⟩
  · simp [start]
  · rw [split, place, List.drop_left]
    exact List.prefix_append _ _

/-- What a match declares: the name that it has captured, and whether the word in front of it is `fragment`. -/
def declaredBy (found : Match) : Declaration where
  name := ((found.capture? "name").map fun name => String.ofList name.text).getD ""
  start := ((found.capture? "name").map Capture.start).getD found.start
  isFragment := (found.capture? "modifier").any fun modifier => "fragment".toList.isPrefixOf modifier.text

theorem Captured.ofMatch? {masked : List Char} {found : Match} {name : Capture}
    (captured : Captured masked found name) : ofMatch? found = some (declaredBy found) := by
  have fragment : ((found.capture? "modifier").any fun modifier =>
      Text.trim (String.ofList modifier.text) = "fragment") = (declaredBy found).isFragment := by
    have modified := captured.modified
    rw [declaredBy]
    cases taken : found.capture? "modifier" with
    | none => rfl
    | some modifier =>
      rw [Option.any_some, Option.any_some, Bool.eq_iff_iff, decide_eq_true_iff, List.isPrefixOf_iff_prefix]
      exact (modified modifier taken).trim_iff
  rw [Declarations.ofMatch?, captured.named, fragment, declaredBy, captured.named]
  rfl

structure Stands (masked : List Char) (rule : Declaration) : Prop where
  inside : rule.start ≤ masked.length
  there : rule.name.toList <+: masked.drop rule.start
  visible : ∀ c ∈ rule.name.toList, c ≠ ' '

theorem Captured.stands {masked : List Char} {found : Match} {name : Capture}
    (captured : Captured masked found name) : Stands masked (declaredBy found) := by
  have text : (declaredBy found).name.toList = name.text := by simp [declaredBy, captured.named]
  have start : (declaredBy found).start = name.start := by simp [declaredBy, captured.named]
  constructor
  · rw [start]
    exact captured.inside
  · rw [start, text]
    exact captured.there
  · rw [text]
    exact captured.visible

def IsDeclaration (rule : Declaration) : Prop := rule.name ∉ ["grammar", "options", "tokens", "channels"]

instance : DecidablePred IsDeclaration := fun rule => inferInstanceAs (Decidable (rule.name ∉ _))

theorem declarations_eq (masked : List Char) :
    declarations masked = ((rulePattern.findAll masked).map declaredBy).filter fun rule => IsDeclaration rule := by
  have read : (rulePattern.findAll masked).filterMap ofMatch? = (rulePattern.findAll masked).map declaredBy := by
    rw [← List.filterMap_eq_map]
    refine List.filterMap_congr fun found there => ?_
    obtain ⟨name, captured⟩ := exists_captured there
    exact captured.ofMatch?
  rw [declarations, read]
  refine List.filter_congr fun rule member => ?_
  simp [isRuleName, Scan.blockKeywords, IsDeclaration]

theorem Stands.hasAt {source : Source} {rule : Declaration} (stands : Stands (Scan.mask source.chars).text rule) :
    source.HasAt rule.start rule.name := by
  have kept := Scan.mask_shows source.chars
  refine ⟨?_, ?_⟩
  · rw [Source.length, kept.length_eq]
    exact stands.inside
  · obtain ⟨later, behind⟩ := stands.there
    have behind' := List.forall₂_drop rule.start kept
    rw [← behind] at behind'
    exact Scan.prefix_of_shows behind' stands.visible

end Matches

/-- The entries of a list that are admitted behind those before them. -/
def admitted {α : Type} (admits : List α → α → Bool) (entries : List α) : List α :=
  (entries.zipIdx.filter fun (entry, index) => admits (entries.take index) entry).map Prod.fst

section Admitted
variable {α : Type} {admits : List α → α → Bool} {entries : List α} {last : α}

theorem mem_of_mem_admitted {entry : α} (member : entry ∈ admitted admits entries) : entry ∈ entries := by
  obtain ⟨⟨entry, index⟩, there, rfl⟩ := List.mem_map.mp member
  exact List.fst_mem_of_mem_zipIdx (List.mem_filter.mp there).1

theorem admitted_concat (admits : List α → α → Bool) (entries : List α) (last : α) :
    admitted admits (entries ++ [last]) =
      admitted admits entries ++ if admits entries last then [last] else [] := by
  have before : (entries.zipIdx.filter fun (entry, index) => admits ((entries ++ [last]).take index) entry) =
      entries.zipIdx.filter fun (entry, index) => admits (entries.take index) entry := by
    apply List.filter_congr
    rintro ⟨entry, index⟩ member
    have inside := (List.mem_zipIdx member).2.1
    dsimp only
    rw [List.take_append_of_le_length (by omega)]
  rw [admitted, List.zipIdx_append, List.filter_append, before, List.map_append, admitted]
  congr 1
  cases admitted : admits entries last
  all_goals simp [admitted]

end Admitted

/-- What the sources declare, each with its source: the matches in order, but for those of other words. -/
def declared (sources : List Source) : List (Source × Declaration) :=
  sources.flatMap fun source =>
    (((rulePattern.findAll (Scan.mask source.chars).text).map declaredBy).filter fun rule => IsDeclaration rule).map
      (source, ·)

theorem declared_eq (sources : List Source) : declared sources =
    sources.flatMap fun source => (declarations (Scan.mask source.chars).text).map (source, ·) := by
  simp only [declared, declarations_eq]

theorem stands_of_mem_declared {sources : List Source} {source : Source} {rule : Declaration}
    (member : (source, rule) ∈ declared sources) : Stands (Scan.mask source.chars).text rule := by
  obtain ⟨source, -, member⟩ := List.mem_flatMap.mp member
  obtain ⟨rule, member, same⟩ := List.mem_map.mp member
  cases same
  obtain ⟨found, there, rfl⟩ := List.mem_map.mp (List.mem_filter.mp member).1
  obtain ⟨name, captured⟩ := exists_captured there
  exact captured.stands

def isKnown (before : List (Source × Declaration)) (entry : Source × Declaration) : Bool :=
  before.any fun earlier => earlier.2.name = entry.2.name

def firsts : List (Source × Declaration) → List (Source × Declaration) :=
  admitted fun before entry => !isKnown before entry

def repeats : List (Source × Declaration) → List (Source × Declaration) := admitted isKnown

def namesOf (kind : Declaration → Bool) (entries : List (Source × Declaration)) : List String :=
  ((firsts entries).filter fun entry => kind entry.2).map fun entry => entry.2.name

/-- All diagnoses of a check but those of sources without a grammar declaration. -/
def aboutRule (diagnosis : Diagnosis) : Bool := diagnosis.message ≠ "Grammar declaration is missing"

/-- What a check has found of the declarations it has seen. -/
structure Accounts (entries : List (Source × Declaration)) (checking : Checking) : Prop where
  seen : ∀ name, name ∈ checking.seen ↔ name ∈ entries.map fun entry => entry.2.name
  parserRules : checking.report.parserRules = namesOf isParserRule entries
  lexerRules : checking.report.lexerRules = namesOf isLexerRule entries
  diagnoses : checking.report.diagnoses.filter aboutRule =
    (repeats entries).map fun entry => duplicate entry.1 entry.2

section Accounting
variable {entries : List (Source × Declaration)} {checking : Checking}

theorem aboutRule_duplicate (source : Source) (rule : Declaration) : aboutRule (duplicate source rule) = true := by
  apply decide_eq_true
  intro same
  have chars := congrArg String.toList same
  simp [duplicate, Diagnosis.located] at chars

theorem Accounts.addGrammar (accounts : Accounts entries checking) (source : Source) (masked : List Char) :
    Accounts entries (checking.addGrammar source masked) := by
  rw [Checking.addGrammar_eq]
  refine ⟨accounts.seen, accounts.parserRules, accounts.lexerRules, ?_⟩
  rw [← accounts.diagnoses, List.filter_append]
  cases (grammarPattern.find? masked).isSome <;> simp [aboutRule, missing, Diagnosis.located]

theorem namesOf_concat (kind : Declaration → Bool) (entry : Source × Declaration) :
    namesOf kind (entries ++ [entry]) =
      namesOf kind entries ++ if !isKnown entries entry && kind entry.2 then [entry.2.name] else [] := by
  rw [namesOf, firsts, admitted_concat, List.filter_append, List.map_append]
  cases isKnown entries entry <;> cases kind : kind entry.2 <;> simp [namesOf, firsts, kind]

theorem Accounts.addRule (accounts : Accounts entries checking) (source : Source) (rule : Declaration) :
    Accounts (entries ++ [(source, rule)]) (Checking.addRule source checking rule) := by
  have known : isKnown entries (source, rule) = true ↔ rule.name ∈ checking.seen := by
    rw [accounts.seen]
    simp [isKnown]
  obtain ⟨seen, parserRules, lexerRules, diagnoses⟩ := accounts
  by_cases again : rule.name ∈ checking.seen
  · have known := known.mpr again
    have here := (seen rule.name).mp again
    rw [Checking.addRule_known again]
    refine ⟨fun name => ?_, ?_, ?_, ?_⟩
    · rw [seen, List.map_append, List.mem_append]
      refine ⟨.inl, ?_⟩
      rintro (earlier | same)
      · exact earlier
      · rwa [List.mem_singleton.mp same]
    · simp [namesOf_concat, known, parserRules]
    · simp [namesOf_concat, known, lexerRules]
    · rw [repeats, admitted_concat, if_pos known, List.map_append, ← repeats, ← diagnoses, List.filter_append]
      simp [aboutRule_duplicate]
  · have known := Bool.eq_false_iff.mpr (mt known.mp again)
    rw [Checking.addRule_new again]
    refine ⟨fun name => ?_, ?_, ?_, ?_⟩
    · rw [List.mem_cons, seen, List.map_append, List.mem_append, List.map_singleton, List.mem_singleton, or_comm]
    · simp [namesOf_concat, known, parserRules]
    · simp [namesOf_concat, known, lexerRules]
    · rw [repeats, admitted_concat, known, ← repeats]
      simpa using diagnoses

theorem Accounts.addActions (accounts : Accounts entries checking) (source : Source) (actions : List (Nat × Nat)) :
    Accounts entries (Checking.addActions source actions checking) :=
  ⟨accounts.seen, accounts.parserRules, accounts.lexerRules, accounts.diagnoses⟩

theorem Accounts.addSource (accounts : Accounts entries checking) (source : Source) :
    Accounts (entries ++ declared [source]) (checking.addSource source) := by
  have rules (found : List Declaration) {entries : List (Source × Declaration)} {checking : Checking}
      (accounts : Accounts entries checking) :
      Accounts (entries ++ found.map (source, ·)) (found.foldl (Checking.addRule source) checking) := by
    induction found generalizing entries checking with
    | nil => simpa using accounts
    | cons rule found ih => simpa using ih (accounts.addRule source rule)
  rw [Checking.addSource, declared_eq, List.flatMap_singleton]
  exact (rules _ (accounts.addGrammar source _)).addActions source _

theorem check_accounts (project : Project) :
    ∃ checking, check project = checking.report ∧ Accounts (declared project.sources) checking := by
  have sources (sources : List Source) {entries : List (Source × Declaration)} {checking : Checking}
      (accounts : Accounts entries checking) :
      Accounts (entries ++ declared sources) (sources.foldl Checking.addSource checking) := by
    induction sources generalizing entries checking with
    | nil => simpa [declared] using accounts
    | cons source sources ih => simpa [declared] using ih (accounts.addSource source)
  have start : Accounts [] ⟨.empty, []⟩ := ⟨by simp, rfl, rfl, rfl⟩
  exact ⟨_, rfl, sources project.sources start⟩

end Accounting

section Distinct

theorem nodup_firsts (entries : List (Source × Declaration)) :
    ((firsts entries).map fun entry => entry.2.name).Nodup := by
  induction entries using List.reverseRecOn with
  | nil => exact List.nodup_nil
  | append_singleton entries entry ih =>
    rw [firsts, admitted_concat, ← firsts]
    cases known : isKnown entries entry with
    | true => simpa using ih
    | false =>
      rw [Bool.not_false, if_pos rfl, List.map_append]
      refine List.nodup_append.mpr ⟨ih, by simp, ?_⟩
      rintro name member other here rfl
      obtain ⟨earlier, there, rfl⟩ := List.mem_map.mp member
      have new := List.any_eq_false.mp known earlier (mem_of_mem_admitted there)
      exact new (decide_eq_true (List.mem_singleton.mp here))

theorem nodup_namesOf (kind : Declaration → Bool) (entries : List (Source × Declaration)) :
    (namesOf kind entries).Nodup :=
  (nodup_firsts entries).sublist (List.filter_sublist.map _)

theorem disjoint_namesOf (entries : List (Source × Declaration)) :
    (namesOf isParserRule entries).Disjoint (namesOf isLexerRule entries) := by
  intro name parser lexer
  obtain ⟨entry, isParser, rfl⟩ := List.mem_map.mp parser
  obtain ⟨other, isLexer, same⟩ := List.mem_map.mp lexer
  have parser := (List.mem_filter.mp isParser).2
  have lexer := (List.mem_filter.mp isLexer).2
  rw [isParserRule] at parser
  rw [isLexerRule, same] at lexer
  simp_all

end Distinct

/-- A diagnosis says that the name that stands at the declaration is declared before. The place is found by the bytes
in front of the name in the masked text. -/
def Reports (entry : Source × Declaration) (diagnosis : Diagnosis) : Prop :=
  let (source, rule) := entry
  let masked := (Scan.mask source.chars).text
  ∃ offset span, Text.charOffset? masked (Text.byteOffset masked rule.start) = some offset ∧
    source.span offset rule.name.length = .ok span ∧ span.text = rule.name ∧
    diagnosis =
      ⟨some span, "Rule '" ++ rule.name ++ "' is already declared", .error, .grammarChecked, .grammarCheck⟩

theorem reports_duplicate {source : Source} {rule : Declaration} (stands : Stands (Scan.mask source.chars).text rule) :
    Reports (source, rule) (duplicate source rule) := by
  have there := stands.hasAt
  refine ⟨rule.start, ⟨source, rule.start, rule.name.length, there.inside⟩,
    Text.charOffset?_byteOffset stands.inside, dif_pos there.inside, there.text, ?_⟩
  rw [duplicate, Source.clampedSpan_eq there.inside]
  rfl

/-- Of what the matches declare, the first one of each name counts as the rule that it declares, and every later one
is reported where it stands. -/
theorem declared_rules_accounted (project : Project) :
    let report := check project
    let entries := declared project.sources
    (∀ source ∈ project.sources, ∀ found ∈ rulePattern.findAll (Scan.mask source.chars).text,
      ∃ name, Captured (Scan.mask source.chars).text found name) ∧
    report.parserRules = namesOf isParserRule entries ∧ report.lexerRules = namesOf isLexerRule entries ∧
    List.Forall₂ Reports (repeats entries) (report.diagnoses.filter aboutRule) ∧
    report.parserRules.Nodup ∧ report.lexerRules.Nodup ∧ report.parserRules.Disjoint report.lexerRules ∧
    (RuleTable.ofList report.parserRules).names = report.parserRules := by
  obtain ⟨checking, same, seen, parserRules, lexerRules, diagnoses⟩ := check_accounts project
  have distinct := nodup_namesOf isParserRule (declared project.sources)
  dsimp only
  rw [same, parserRules, lexerRules, diagnoses]
  refine ⟨fun source inside found => exists_captured, rfl, rfl, ?_, distinct, nodup_namesOf _ _, disjoint_namesOf _,
    RuleTable.names_ofList distinct⟩
  apply List.forall₂_map_right_iff.mpr
  apply List.forall₂_same.mpr
  intro entry member
  exact reports_duplicate (stands_of_mem_declared (mem_of_mem_admitted member))

example :
    let lexer : Source := ⟨"L.g4", "lexer grammar L;\nfragment A : 'x' ;\nB : A ;\n"⟩
    let parser : Source := ⟨"P.g4", "parser grammar P;\nb : été ;\nB : b ;\n  b : A ;\nA : 'é' ;\n"⟩
    let report := check (.ofSources [lexer, parser])
    report.parserRules = ["b"] ∧ report.lexerRules = ["B"] ∧
      (report.diagnoses.filterMap Diagnosis.span).map (fun span => (span.source.name, span.start, span.text)) =
        [("P.g4", 28, "B"), ("P.g4", 38, "b"), ("P.g4", 46, "A")] := by
  decide +kernel

end Declarations

end GrammarFlow
