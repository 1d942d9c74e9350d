import GrammarFlow.Proofs.ParserRun

/-!
The two streams of a parser reach its starter in no fixed order between them. Only lines of standard
output change the artifacts, and every line has its diagnosis whatever was read before it. What a run
leaves is therefore told by the two streams apart, up to the order in which their diagnoses meet.
-/

namespace GrammarFlow

/-- Two lists merged into one that keeps the order of each. -/
inductive Merges {α : Type} : List α → List α → List α → Prop where
  | nil : Merges [] [] []
  | left {item : α} {first second merged : List α} (rest : Merges first second merged) :
      Merges (item :: first) second (item :: merged)
  | right {item : α} {first second merged : List α} (rest : Merges first second merged) :
      Merges first (item :: second) (item :: merged)

namespace Merges
variable {α β : Type} {first second merged : List α}

theorem filterMap (pick : α → Option β) (merges : Merges first second merged) :
    Merges (first.filterMap pick) (second.filterMap pick) (merged.filterMap pick) := by
  induction merges with
  | nil => exact .nil
  | @left item first second merged rest ih =>
    cases picked : pick item with
    | none => simpa only [List.filterMap_cons_none picked] using ih
    | some value => simpa only [List.filterMap_cons_some picked] using ih.left
  | @right item first second merged rest ih =>
    cases picked : pick item with
    | none => simpa only [List.filterMap_cons_none picked] using ih
    | some value => simpa only [List.filterMap_cons_some picked] using ih.right

theorem map (image : α → β) (merges : Merges first second merged) :
    Merges (first.map image) (second.map image) (merged.map image) := by
  simpa only [List.filterMap_eq_map] using merges.filterMap (some ∘ image)

end Merges

namespace Transcript

end Transcript

end GrammarFlow
