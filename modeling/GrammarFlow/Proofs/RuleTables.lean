import Mathlib.Data.List.Induction
import Mathlib.Data.List.Nodup
import GrammarFlow.Grammar.RuleIndex

/-!
What is found in a rule table. A table holds every name of a list once, where it comes first, and finds a name at its
place among these. An index finds the same, for its map and its names are inverse to each other.
-/

namespace GrammarFlow

namespace RuleTable

structure Holds (table : RuleTable) (rules : List String) : Prop where
  once : table.names.Nodup
  same : ∀ name, name ∈ table.names ↔ name ∈ rules
  order : table.names.Pairwise fun first second => rules.idxOf first < rules.idxOf second

theorem Holds.add {table : RuleTable} {rules : List String} (holds : table.Holds rules) (name : String) :
    (table.add name).Holds (rules ++ [name]) := by
  have kept : table.names.Pairwise fun first second =>
      (rules ++ [name]).idxOf first < (rules ++ [name]).idxOf second := by
    refine holds.order.imp_of_mem fun {first second} here there before => ?_
    rwa [List.idxOf_append_of_mem ((holds.same first).mp here), List.idxOf_append_of_mem ((holds.same second).mp there)]
  refine ⟨(table.add name).distinct, ?same, ?order⟩
  case same =>
    intro other
    unfold RuleTable.add
    split
    next known =>
      rw [List.mem_append, List.mem_singleton, holds.same]
      exact ⟨.inl, fun listed => listed.elim id fun last => last ▸ (holds.same name).mp known⟩
    next new => rw [List.mem_append, List.mem_append, holds.same]
  case order =>
    unfold RuleTable.add
    split
    next known => exact kept
    next new =>
      rw [holds.same] at new
      refine List.pairwise_append.mpr ⟨kept, List.pairwise_singleton .., ?_⟩
      intro first here last single
      obtain rfl := List.mem_singleton.mp single
      have place : (rules ++ [last]).idxOf last = rules.length := by
        rw [List.idxOf_append_of_notMem new, List.idxOf_cons_self]
        rfl
      have inside := (holds.same first).mp here
      rw [List.idxOf_append_of_mem inside, place]
      exact List.idxOf_lt_length_of_mem inside

theorem ofList_concat (rules : List String) (name : String) : ofList (rules ++ [name]) = (ofList rules).add name := by
  rw [ofList, List.foldl_append]
  rfl

theorem holds_ofList (rules : List String) : (ofList rules).Holds rules := by
  induction rules using List.reverseRecOn with
  | nil => exact ⟨List.nodup_nil, fun _ => Iff.rfl, .nil⟩
  | append_singleton rules last ih => exact ofList_concat rules last ▸ ih.add last

theorem head?_names_ofList (rules : List String) : (ofList rules).names.head? = rules.head? := by
  induction rules using List.reverseRecOn with
  | nil => rfl
  | append_singleton rules last ih =>
    rw [ofList_concat, List.head?_append, ← ih, RuleTable.add]
    split
    next known =>
      obtain ⟨first, others, names⟩ := List.exists_cons_of_ne_nil (List.ne_nil_of_mem known)
      rw [names]
      rfl
    next => exact List.head?_append

theorem idxOf?_eq_some_iff (table : RuleTable) {name : String} {index : Nat} :
    table.names.idxOf? name = some index ↔ table.names[index]? = some name := by
  rw [List.idxOf?_eq_some_iff, List.getElem?_eq_some_iff]
  constructor
  · rintro ⟨inside, here, -⟩
    exact ⟨inside, here⟩
  · rintro ⟨inside, here⟩
    refine ⟨inside, here, fun earlier before there => ?_⟩
    exact Nat.ne_of_lt before ((List.Nodup.getElem_inj_iff table.distinct).mp (there.trans here.symm))

section Resolve
variable (table : RuleTable) {name : String}

theorem resolve_named (named : name ≠ "") :
    table.resolve (some name) = match table.names.idxOf? name with
      | some index => .ok ⟨name, index⟩
      | none => .error (.unknown name) := by
  have kept : (some name).filter (· ≠ "") = some name := by simp [Option.filter, named]
  cases there : table.names.idxOf? name <;> simp only [resolve, kept, there]

theorem resolve_eq_ok_iff (named : name ≠ "") {entry : EntryRule} :
    table.resolve (some name) = .ok entry ↔ entry.name = name ∧ table.names[entry.index]? = some name := by
  obtain ⟨title, number⟩ := entry
  rw [resolve_named table named, ← idxOf?_eq_some_iff]
  cases table.names.idxOf? name with
  | none => simp
  | some index => simp [eq_comm]

theorem resolve_eq_unknown_iff (named : name ≠ "") :
    table.resolve (some name) = .error (.unknown name) ↔ name ∉ table.names := by
  rw [resolve_named table named, ← List.idxOf?_eq_none_iff]
  cases table.names.idxOf? name <;> simp

theorem resolve_unnamed {requested : Option String} (unnamed : requested = none ∨ requested = some "") :
    table.resolve requested = match table.names.head? with
      | some first => .ok ⟨first, 0⟩
      | none => .error .noRules := by
  have nothing : requested.filter (· ≠ "") = none := by rcases unnamed with rfl | rfl <;> rfl
  rw [resolve, nothing, first?]
  cases table.names.head? <;> rfl

end Resolve

/-- What is found in a table for the rules of a list, whatever is asked for. -/
structure Resolves (table : RuleTable) (rules : List String) : Prop where
  holds : table.Holds rules
  found : ∀ name, name ≠ "" → ∀ entry,
    table.resolve (some name) = .ok entry ↔ entry.name = name ∧ table.names[entry.index]? = some name
  missing : ∀ name, name ≠ "" → (table.resolve (some name) = .error (.unknown name) ↔ name ∉ rules)
  unnamed : ∀ requested, requested = none ∨ requested = some "" →
    table.resolve requested = match rules.head? with
      | some first => .ok ⟨first, 0⟩
      | none => .error .noRules

theorem resolves_ofList (rules : List String) : (ofList rules).Resolves rules where
  holds := holds_ofList rules
  found _ named _ := resolve_eq_ok_iff _ named
  missing name named := by rw [resolve_eq_unknown_iff _ named, (holds_ofList rules).same name]
  unnamed _ unnamed := by rw [resolve_unnamed _ unnamed, head?_names_ofList]

end RuleTable

namespace RuleIndex

def Inverse (index : RuleIndex) : Prop :=
  ∀ (name : String) (number : Nat), index.numbers[name]? = some number ↔ index.names[number]? = some name

theorem Inverse.contains {index : RuleIndex} (inverse : index.Inverse) (name : String) :
    index.numbers.contains name = true ↔ name ∈ index.names := by
  rw [Std.HashMap.contains_eq_isSome_getElem?, Option.isSome_iff_exists, List.mem_iff_getElem?]
  exact exists_congr (inverse name)

private theorem getElem?_concat_eq_some_iff {names : List String} {name other : String} {number : Nat} :
    (names ++ [name])[number]? = some other ↔
      names[number]? = some other ∨ number = names.length ∧ name = other := by
  rw [List.getElem?_append]
  split
  next inside => simp [Nat.ne_of_lt inside]
  next outside =>
    rw [List.getElem?_eq_none (Nat.not_lt.mp outside), List.getElem?_singleton]
    split
    · simp
      omega
    · simp
      omega

theorem Inverse.add {index : RuleIndex} (inverse : index.Inverse) (name : String) : (index.add name).Inverse := by
  unfold RuleIndex.add
  split
  next => exact inverse
  next new =>
    rw [inverse.contains] at new
    intro other number
    dsimp only
    rw [Std.HashMap.getElem?_insert, getElem?_concat_eq_some_iff]
    by_cases same : name = other
    · subst same
      have absent : ¬ index.names[number]? = some name := fun there => new (List.mem_of_getElem? there)
      simp [absent, eq_comm]
    · simpa [same] using inverse other number

structure Indexes (index : RuleIndex) (table : RuleTable) : Prop where
  names : index.names = table.names
  inverse : index.Inverse

theorem Indexes.add {index : RuleIndex} {table : RuleTable} (indexes : index.Indexes table) (name : String) :
    (index.add name).Indexes (table.add name) := by
  refine ⟨?_, indexes.inverse.add name⟩
  have known := indexes.inverse.contains name
  rw [indexes.names] at known
  unfold RuleIndex.add RuleTable.add
  by_cases member : name ∈ table.names
  · rw [if_pos (known.mpr member), dif_pos member, indexes.names]
  · rw [if_neg (mt known.mp member), dif_neg member, indexes.names]

theorem indexes_ofList (rules : List String) : (ofList rules).Indexes (.ofList rules) := by
  have run (index : RuleIndex) (table : RuleTable) (indexes : index.Indexes table) :
      (rules.foldl RuleIndex.add index).Indexes (rules.foldl RuleTable.add table) := by
    induction rules generalizing index table with
    | nil => exact indexes
    | cons rule rules ih => exact ih _ _ (indexes.add rule)
  exact run empty .empty ⟨rfl, fun name number => by simp [empty]⟩

theorem Indexes.resolve_eq {index : RuleIndex} {table : RuleTable} (indexes : index.Indexes table)
    (requested : Option String) : index.resolve requested = table.resolve requested := by
  rw [RuleIndex.resolve, RuleTable.resolve]
  cases requested.filter (· ≠ "") with
  | none =>
    dsimp only
    rw [indexes.names, RuleTable.first?]
    cases table.names.head? <;> rfl
  | some name =>
    have found : index.numbers[name]? = table.names.idxOf? name := by
      ext number
      rw [indexes.inverse, indexes.names, RuleTable.idxOf?_eq_some_iff]
    cases there : table.names.idxOf? name <;> simp only [found, there]

end RuleIndex

end GrammarFlow
