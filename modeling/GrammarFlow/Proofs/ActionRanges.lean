import GrammarFlow.Proofs.CheckSteps
import GrammarFlow.Proofs.SourceSpans

/-! The actions that a first look finds in a grammar. Behind a block the look goes on past its end, so the actions
of a source lie in it one behind the other, and a check lists them source by source. -/

namespace GrammarFlow

namespace Scan

/-- Ranges one behind the other with something between, which begin behind one offset and end up to another. -/
structure Between (low high : Nat) (ranges : List (Nat × Nat)) : Prop where
  ordered : ranges.Pairwise fun a b => a.2 < b.1
  bounded : ∀ range ∈ ranges, low < range.1 ∧ range.1 ≤ range.2 ∧ range.2 ≤ high

variable {low high : Nat} {ranges : List (Nat × Nat)}

theorem Between.mono (between : Between low high ranges) {lower higher : Nat} (below : lower ≤ low)
    (above : high ≤ higher) : Between lower higher ranges := by
  refine ⟨between.ordered, fun range member => ?_⟩
  have := between.bounded range member
  omega

theorem Between.cons {first : Nat × Nat} {stop : Nat} (rest : Between stop high ranges) (starts : low < first.1)
    (forward : first.1 ≤ first.2) (ends : first.2 ≤ stop) (inside : first.2 ≤ high) (after : low ≤ stop) :
    Between low high (first :: ranges) := by
  refine ⟨List.pairwise_cons.mpr ⟨fun range member => ?_, rest.ordered⟩, List.forall_mem_cons.mpr
    ⟨⟨starts, forward, inside⟩, (rest.mono after (Nat.le_refl _)).bounded⟩⟩
  exact Nat.lt_of_le_of_lt ends (rest.bounded range member).1

theorem contentRange_bounds (offset : Nat) (block : List Char) :
    (contentRange offset block).1 = offset + 1 ∧ offset + 1 ≤ (contentRange offset block).2 ∧
      (contentRange offset block).2 ≤ max (offset + block.length) (offset + 1) := by
  refine ⟨rfl, Nat.le_max_right _ _, ?_⟩
  simp only [contentRange]
  split <;> omega

/-- Behind an offset and what is skipped there, the actions come in order and up to the end of the text. -/
theorem maskAfter_actions (before : List Char) (offset skip : Nat) (text : List Char) :
    Between (offset + skip) (offset + text.length) (maskAfter before offset skip text).actions := by
  fun_induction maskAfter before offset skip text with
  | case1 => exact ⟨List.Pairwise.nil, by simp⟩
  | case2 before offset skip c rest masked ih =>
    exact ih.mono (by omega) (by rw [List.length_cons]; omega)
  | case3 before offset c rest plain masked ih =>
    exact ih.mono (by omega) (by rw [List.length_cons]; omega)
  | case4 before offset c rest length hidden masked ih =>
    exact ih.mono (by omega) (by rw [List.length_cons]; omega)
  | case5 before offset c rest length block masked actions ih =>
    have high : offset + 1 + rest.length = offset + (c :: rest).length := by rw [List.length_cons]; omega
    rw [high] at ih
    show Between (offset + 0) _ (actions ++ masked.actions)
    simp only [actions]
    split
    next => exact ih.mono (by omega) (Nat.le_refl _)
    next =>
      obtain ⟨starts, forward, ends⟩ := contentRange_bounds offset ((c :: rest).take length)
      rw [List.length_take, List.length_cons] at ends
      exact ih.cons (by omega) (by omega) (by omega) (by rw [List.length_cons]; omega) (by omega)

theorem mask_actions (text : List Char) : Between 0 text.length (mask text).actions := by
  simpa only [mask, Nat.zero_add] using maskAfter_actions [] 0 0 text

end Scan

def Source.actionSpans (source : Source) : List Span :=
  (Scan.mask source.chars).actions.map fun (start, stop) => source.clampedSpan start stop

namespace Source
variable {source : Source}

theorem source_of_mem_actionSpans {span : Span} (member : span ∈ source.actionSpans) : span.source = source := by
  obtain ⟨range, -, rfl⟩ := List.mem_map.mp member
  rfl

theorem actionSpans_apart (source : Source) : source.actionSpans.Pairwise fun a b => a.stop ≤ b.start := by
  have between := Scan.mask_actions source.chars
  refine List.pairwise_map.mpr (between.ordered.imp_of_mem fun {first second} member later order => ?_)
  obtain ⟨-, forward, inside⟩ := between.bounded first member
  obtain ⟨-, forward', inside'⟩ := between.bounded second later
  have start := source.clampedSpan_start second.2 (Nat.le_trans forward' inside')
  have stop := source.clampedSpan_stop_le forward
  rw [start]
  exact Nat.le_trans stop (Nat.le_of_lt order)

end Source

namespace Declarations

namespace Checking

theorem fragments_addGrammar (source : Source) (masked : List Char) (checking : Checking) :
    (checking.addGrammar source masked).report.fragments = checking.report.fragments := by
  rw [addGrammar_eq]

theorem fragments_addRule (source : Source) (checking : Checking) (rule : Declaration) :
    (addRule source checking rule).report.fragments = checking.report.fragments := by
  by_cases known : rule.name ∈ checking.seen
  · rw [addRule_known known]
  · rw [addRule_new known]

theorem fragments_addSource (checking : Checking) (source : Source) :
    (addSource checking source).report.fragments = checking.report.fragments ++ source.actionSpans := by
  have rules (found : List Declaration) (checking : Checking) :
      (found.foldl (addRule source) checking).report.fragments = checking.report.fragments := by
    induction found generalizing checking with
    | nil => rfl
    | cons rule found ih => rw [List.foldl_cons, ih, fragments_addRule]
  simp only [addSource, addActions, rules, fragments_addGrammar, Source.actionSpans]

end Checking

theorem fragments_check (project : Project) :
    (check project).fragments = project.sources.flatMap Source.actionSpans := by
  have later (sources : List Source) (checking : Checking) :
      (sources.foldl Checking.addSource checking).report.fragments =
        checking.report.fragments ++ sources.flatMap Source.actionSpans := by
    induction sources generalizing checking with
    | nil => simp
    | cons source sources ih =>
      rw [List.foldl_cons, ih, Checking.fragments_addSource, List.flatMap_cons, List.append_assoc]
  exact later project.sources _

end Declarations

end GrammarFlow
