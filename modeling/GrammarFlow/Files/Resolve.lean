import GrammarFlow.Files.Path

/-!
Where a path leads if every part of it is a folder. A double dot goes back to the folder above; at the root it stays
there. A place is the list of the names that lead to it from the root.
-/

namespace GrammarFlow.Path

/-- The parts of a path that lead to another folder, double dots included. -/
def steps (path : String) : List String :=
  ((pieces path.toList).map String.ofList).filter fun piece => piece ≠ "" ∧ piece ≠ "."

def step (place : List String) (part : String) : List String :=
  if part = ".." then place.dropLast else place ++ [part]

/-- The place of a path for which relative paths start at `current`. -/
def resolve (current : List String) (path : String) : List String :=
  (steps path).foldl step (if isAbsolute path then [] else current)

/-- A text that leads from a folder to an entry of this name in it. -/
def IsName (text : String) : Prop := text ≠ "" ∧ text ≠ "." ∧ text ≠ ".." ∧ '/' ∉ text.toList

instance : DecidablePred IsName := fun text =>
  inferInstanceAs (Decidable (text ≠ "" ∧ text ≠ "." ∧ text ≠ ".." ∧ '/' ∉ text.toList))

end GrammarFlow.Path
