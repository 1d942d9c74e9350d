/-!
The parser rules of a grammar, each with its number. A rule that is named twice counts where it
comes first.
-/

namespace GrammarFlow

structure RuleTable where
  names : List String
  distinct : names.Nodup
deriving DecidableEq

structure EntryRule where
  name : String
  index : Nat
deriving DecidableEq, Repr

inductive RuleError where
  | noRules
  | unknown (name : String)
deriving DecidableEq, Repr

def RuleError.message : RuleError → String
  | .noRules => "Grammar declares no parser rules"
  | .unknown name => "Root rule '" ++ name ++ "' is not declared"

namespace RuleTable

def empty : RuleTable := ⟨[], List.nodup_nil⟩

instance : Inhabited RuleTable := ⟨empty⟩

def add (table : RuleTable) (name : String) : RuleTable :=
  if known : name ∈ table.names then table
  else ⟨table.names ++ [name], by
    refine List.nodup_append.mpr ⟨table.distinct, by simp, ?_⟩
    intro a member b single
    simp only [List.mem_singleton] at single
    subst single
    exact fun same => known (same ▸ member)⟩

def ofList (rules : List String) : RuleTable := rules.foldl add empty

def size (table : RuleTable) : Nat := table.names.length

def isEmpty (table : RuleTable) : Bool := table.names.isEmpty

def first? (table : RuleTable) : Option EntryRule := table.names.head?.map (⟨·, 0⟩)

/-- The rule that parsing starts from: the requested one or, where none or an empty name is
requested, the first. -/
def resolve (table : RuleTable) (requested : Option String) : Except RuleError EntryRule :=
  match requested.filter (· ≠ "") with
  | none =>
    match table.first? with
    | some entry => .ok entry
    | none => .error .noRules
  | some name =>
    match table.names.idxOf? name with
    | some index => .ok ⟨name, index⟩
    | none => .error (.unknown name)

end RuleTable

end GrammarFlow
