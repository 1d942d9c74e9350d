import Mathlib.Data.List.Basic
import GrammarFlow.Grammar.RuleTable

/-!
The parser rules of a grammar with an index: beside the names in order there is a map from each name to its number,
and a name is looked up in the map only. The two are filled together and agree only as long as no name is added twice.
-/

namespace GrammarFlow

structure RuleIndex where
  names : List String
  numbers : Std.HashMap String Nat

namespace RuleIndex

def empty : RuleIndex := ⟨[], ∅⟩

def add (index : RuleIndex) (name : String) : RuleIndex :=
  if index.numbers.contains name then index
  else ⟨index.names ++ [name], index.numbers.insert name index.names.length⟩

def ofList (rules : List String) : RuleIndex := rules.foldl add empty

def resolve (index : RuleIndex) (requested : Option String) : Except RuleError EntryRule :=
  match requested.filter (· ≠ "") with
  | none =>
    match index.names.head? with
    | some name => .ok ⟨name, 0⟩
    | none => .error .noRules
  | some name =>
    match index.numbers[name]? with
    | some number => .ok ⟨name, number⟩
    | none => .error (.unknown name)

end RuleIndex

end GrammarFlow
