import Mathlib.Data.List.Nodup
import GrammarFlow.Proofs.ActionRanges
import GrammarFlow.Proofs.MarkRegions
import GrammarFlow.Proofs.PlainOffsets
import GrammarFlow.Workflow.Generation

/-! Which grammars can be marked. A check finds actions that lie in order in their source, so marking goes wrong for
two reasons only: there are more actions than fragment numbers, or sources of one name get each other's actions. -/

namespace GrammarFlow

structure Source.Fits (source : Source) (spans : List Span) : Prop where
  inside : ∀ span ∈ spans, span.stop ≤ source.length
  apart : spans.Pairwise fun a b => a.stop ≤ b.start

theorem markable_iff {source : Source} {places : List (Nat × Span)} :
    Markable source places ↔ source.Fits (places.map Prod.snd) ∧ ∀ place ∈ places, place.1 < numberBound := by
  constructor
  · intro markable
    exact ⟨⟨List.forall_mem_map.mpr markable.inside, List.pairwise_map.mpr markable.apart⟩, markable.small⟩
  · rintro ⟨fits, small⟩
    exact ⟨List.forall_mem_map.mp fits.inside, List.pairwise_map.mp fits.apart, small⟩

theorem markable_of_inOrder {source : Source} {marks : MarkStyle} {places : List (Nat × Span)} {copied : Nat}
    (ordered : InOrder source.length marks.markLength copied (marks.fragmentMarks places)) :
    Markable source places ∧ ∀ place ∈ places, copied ≤ place.2.start := by
  induction places generalizing copied with
  | nil => exact ⟨⟨by simp, List.Pairwise.nil, by simp⟩, by simp⟩
  | cons first places ih =>
    obtain ⟨after, -, opened, forward, inside, -, others⟩ := ordered
    obtain ⟨markable, behind⟩ := ih others
    refine ⟨⟨List.forall_mem_cons.mpr ⟨inside, markable.inside⟩, List.pairwise_cons.mpr ⟨behind, markable.apart⟩,
      List.forall_mem_cons.mpr ⟨marks.small_of_length_openMark opened, markable.small⟩⟩, ?_⟩
    refine List.forall_mem_cons.mpr ⟨after, fun place member => ?_⟩
    exact Nat.le_trans after (Nat.le_trans forward (behind place member))

theorem ofFragments_isOk_iff {source : Source} {marks : MarkStyle} {places : List (Nat × Span)} :
    (∃ marked, MarkedSource.ofFragments source marks places = .ok marked) ↔ Markable source places := by
  constructor
  · rintro ⟨marked, done⟩
    rw [MarkedSource.ofFragments, foldlM_fragmentMarks] at done
    cases inserted : (Marking.start source marks.markLength).insertAll (marks.fragmentMarks places) with
    | error => rw [inserted] at done; cases done
    | ok result => exact (markable_of_inOrder (Marking.inOrder_of_insertAll inserted)).1
  · intro markable
    exact ⟨_, ofFragments_ok marks markable⟩

theorem Source.fits_actionSpans (source : Source) : source.Fits source.actionSpans := by
  refine ⟨fun span member => ?_, source.actionSpans_apart⟩
  have inside := span.inside
  rwa [source_of_mem_actionSpans member] at inside

namespace Project

def actionsNamed (project : Project) (name : String) : List Span :=
  (project.sources.filter fun source => source.name = name).flatMap Source.actionSpans

theorem filter_fragments (project : Project) (name : String) :
    (Declarations.check project).fragments.filter (fun fragment => fragment.source.name = name) =
      project.actionsNamed name := by
  rw [Declarations.fragments_check, actionsNamed]
  induction project.sources with
  | nil => rfl
  | cons source sources ih =>
    have selected (span : Span) (member : span ∈ source.actionSpans) :
        decide (span.source.name = name) = decide (source.name = name) := by
      rw [Source.source_of_mem_actionSpans member]
    rw [List.flatMap_cons, List.filter_append, ih, List.filter_congr selected, List.filter_cons]
    by_cases named : source.name = name
    · simp [named]
    · simp [named]

theorem actionsNamed_of_nodup {project : Project} (distinct : (project.sources.map Source.name).Nodup)
    {source : Source} (member : source ∈ project.sources) : project.actionsNamed source.name = source.actionSpans := by
  have alone : project.sources.filter (fun other => other.name = source.name) = [source] := by
    obtain ⟨before, after, split⟩ := List.append_of_mem member
    rw [split, List.map_append, List.map_cons, List.nodup_middle, List.nodup_cons, List.mem_append, not_or] at distinct
    have none {others : List Source} (fresh : source.name ∉ others.map Source.name) :
        others.filter (fun other => other.name = source.name) = [] := by
      refine List.filter_eq_nil_iff.mpr fun other found same => ?_
      exact fresh (List.mem_map.mpr ⟨other, found, of_decide_eq_true same⟩)
    rw [split, List.filter_append, List.filter_cons, none distinct.1.1, none distinct.1.2]
    simp
  rw [actionsNamed, alone, List.flatMap_singleton]

end Project

namespace Declarations

theorem diagnoses_check_of_noRules {project : Project}
    (bare : ∀ source ∈ project.sources, (grammarPattern.find? (Scan.mask source.chars).text).isSome ∧
      declarations (Scan.mask source.chars).text = []) :
    (check project).diagnoses = [] := by
  have later (sources : List Source) (checking : Checking) (bare : ∀ source ∈ sources,
      (grammarPattern.find? (Scan.mask source.chars).text).isSome ∧ declarations (Scan.mask source.chars).text = []) :
      (sources.foldl Checking.addSource checking).report.diagnoses = checking.report.diagnoses := by
    induction sources generalizing checking with
    | nil => rfl
    | cons source sources ih =>
      obtain ⟨⟨named, noRules⟩, others⟩ := List.forall_mem_cons.mp bare
      obtain ⟨found, named⟩ := Option.isSome_iff_exists.mp named
      rw [List.foldl_cons, ih _ others, Checking.addSource]
      simp only [noRules, List.foldl_nil, Checking.addGrammar, named, Checking.addActions]
  exact later project.sources _ bare

/-- Files of a grammar declaration and an empty action: nothing is wrong with them, and each counts for one action. -/
theorem check_emptyActions {sources : List Source} (bare : ∀ source ∈ sources, source.text = "grammar G;\x7b\x7d") :
    (check (Project.ofSources sources)).diagnoses = [] ∧
      (check (Project.ofSources sources)).fragments.length = sources.length := by
  constructor
  · refine diagnoses_check_of_noRules fun source member => ?_
    rw [Source.chars, bare source member]
    decide +kernel
  · have one (source : Source) (member : source ∈ sources) : source.actionSpans.length = 1 := by
      rw [Source.actionSpans, List.length_map, Source.chars, bare source member]
      decide +kernel
    have listed : (Project.ofSources sources).sources = sources := rfl
    rw [fragments_check, listed, List.length_flatMap, List.map_congr_left one, List.map_const', List.sum_replicate_nat,
      Nat.mul_one]

end Declarations

namespace Generation
variable {source : Source} {fragments : List Span}

theorem mem_fragmentsOf {place : Nat × Span} : place ∈ fragmentsOf source fragments ↔
    fragments[place.1]? = some place.2 ∧ place.2.source.name = source.name := by
  obtain ⟨number, fragment⟩ := place
  simp [fragmentsOf, List.mk_mem_zipIdx_iff_getElem?]

theorem spans_fragmentsOf : (fragmentsOf source fragments).map Prod.snd =
    fragments.filter fun fragment => fragment.source.name = source.name := by
  have selected := List.filter_map (l := fragments.zipIdx) (f := Prod.fst)
    (p := fun fragment => decide (fragment.source.name = source.name))
  rw [List.zipIdx_map_fst] at selected
  rw [selected, fragmentsOf, List.map_map]
  rfl

/-- Every number is that of some source's action, so all are small when there are few actions. -/
theorem numbers_small_iff (project : Project) :
    (∀ source ∈ project.sources, ∀ place ∈ fragmentsOf source (Declarations.check project).fragments,
        place.1 < numberBound) ↔
      (Declarations.check project).fragments.length ≤ numberBound := by
  have known := Declarations.fragments_check project
  generalize (Declarations.check project).fragments = fragments at known ⊢
  constructor
  · intro small
    by_contra many
    have many : numberBound < fragments.length := Nat.lt_of_not_le many
    have member : fragments[numberBound] ∈ project.sources.flatMap Source.actionSpans :=
      known ▸ List.getElem_mem many
    obtain ⟨source, inProject, found⟩ := List.mem_flatMap.mp member
    have same := Source.source_of_mem_actionSpans found
    have place : (numberBound, fragments[numberBound]) ∈ fragmentsOf source fragments :=
      mem_fragmentsOf.mpr ⟨List.getElem?_eq_getElem many, by rw [same]⟩
    exact Nat.lt_irrefl _ (small source inProject _ place)
  · intro few source _ place member
    obtain ⟨inside, -⟩ := List.getElem?_eq_some_iff.mp (mem_fragmentsOf.mp member).1
    exact Nat.lt_of_lt_of_le inside few

/-- With more actions than numbers, the source that has the first action without a number is not marked. -/
theorem not_marked_of_many (project : Project) (marks : MarkStyle)
    (many : numberBound < (Declarations.check project).fragments.length) :
    ∃ source ∈ project.sources, ∃ error, MarkedSource.ofFragments source marks
      (fragmentsOf source (Declarations.check project).fragments) = .error error := by
  by_contra none
  refine absurd ((numbers_small_iff project).mp fun source member => ?_) (Nat.not_le_of_lt many)
  cases done : MarkedSource.ofFragments source marks (fragmentsOf source (Declarations.check project).fragments) with
  | error error => exact absurd ⟨source, member, error, done⟩ none
  | ok marked => exact (markable_iff.mp (ofFragments_isOk_iff.mp ⟨marked, done⟩)).2

/-- The sources of a checked grammar can all be marked exactly if there are no more actions than numbers, and the
actions of sources of one name, taken together, lie in each of these sources one behind the other. When the names
are distinct, the number of actions decides. -/
theorem sources_marked_iff (project : Project) (marks : MarkStyle) :
    let fragments := (Declarations.check project).fragments
    let marked := ∀ source ∈ project.sources, ∃ result,
      MarkedSource.ofFragments source marks (fragmentsOf source fragments) = .ok result
    (marked ↔ fragments.length ≤ numberBound ∧
      ∀ source ∈ project.sources, source.Fits (project.actionsNamed source.name)) ∧
    ((project.sources.map Source.name).Nodup → (marked ↔ fragments.length ≤ numberBound)) := by
  intro fragments marked
  have general : marked ↔ fragments.length ≤ numberBound ∧
      ∀ source ∈ project.sources, source.Fits (project.actionsNamed source.name) := by
    rw [← numbers_small_iff project, ← forall₂_and]
    refine forall₂_congr fun source _ => ?_
    rw [ofFragments_isOk_iff, markable_iff, spans_fragmentsOf, project.filter_fragments, and_comm]
  refine ⟨general, fun distinct => general.trans (and_iff_left fun source member => ?_)⟩
  rw [Project.actionsNamed_of_nodup distinct member]
  exact source.fits_actionSpans

theorem sources_marked_two_files :
    let lexer : Source := ⟨"ExprLexer.g4", "lexer grammar ExprLexer;\nID : [a-z]+ \x7bid();\x7d ;\n"⟩
    let parser : Source := ⟨"ExprParser.g4", "parser grammar ExprParser;\nexpr : ID \x7bgo();\x7d ;\n"⟩
    let project := Project.ofSources [lexer, parser]
    (project.sources.map Source.name).Nodup ∧ (Declarations.check project).fragments.length = 2 ∧
      ∀ source ∈ project.sources, ∃ result, MarkedSource.ofFragments source default
        (fragmentsOf source (Declarations.check project).fragments) = .ok result := by
  intro lexer parser project
  have distinct : (project.sources.map Source.name).Nodup := by decide
  have two : (Declarations.check project).fragments.length = 2 := by
    rw [Declarations.fragments_check]
    decide +kernel
  refine ⟨distinct, two, ((sources_marked_iff project default).2 distinct).mpr ?_⟩
  rw [two]
  decide

/-- A checked grammar may have two sources of one name, which get each other's actions, and it may have more actions
than there are numbers. -/
theorem accepted_not_marked :
    (let lexer : Source := ⟨"Expr.g4", "lexer grammar ExprLexer;\nID : [a-z]+ \x7bid();\x7d ;\n"⟩
      let parser : Source := ⟨"Expr.g4", "parser grammar ExprParser;\nexpr : ID \x7bgo();\x7d ;\n"⟩
      let findings := Declarations.check (Project.ofSources [lexer, parser])
      anyError findings.diagnoses = false ∧
        ∃ error, MarkedSource.ofFragments lexer default (fragmentsOf lexer findings.fragments) = .error error) ∧
    let sources := (List.range 1001).map fun number => Source.mk (toString number ++ ".g4") "grammar G;\x7b\x7d"
    let findings := Declarations.check (Project.ofSources sources)
    anyError findings.diagnoses = false ∧
      ∃ source ∈ sources, ∃ error,
        MarkedSource.ofFragments source default (fragmentsOf source findings.fragments) = .error error := by
  constructor
  · intro lexer parser findings
    exact ⟨by decide +kernel, .unordered 38 43, by decide +kernel⟩
  intro sources findings
  have bare : ∀ source ∈ sources, source.text = "grammar G;\x7b\x7d" := by
    intro source member
    obtain ⟨number, -, rfl⟩ := List.mem_map.mp member
    rfl
  have count : sources.length = 1001 := by rw [List.length_map, List.length_range]
  clear_value sources
  obtain ⟨accepted, actions⟩ := Declarations.check_emptyActions bare
  refine ⟨by rw [accepted]; rfl, not_marked_of_many (Project.ofSources sources) default ?_⟩
  rw [actions, count]
  decide

end Generation

end GrammarFlow
