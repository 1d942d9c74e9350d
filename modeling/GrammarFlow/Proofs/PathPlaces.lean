import GrammarFlow.Files.Resolve
import GrammarFlow.Files.Store

/-!
The places of joined paths. A path is joined part by part unless it is absolute, and what a store finds under a path
is at the place of the path.
-/

namespace GrammarFlow

namespace Path

theorem pieces_ne_nil (path : List Char) : pieces path ≠ [] := by
  fun_induction pieces path <;> simp

theorem pieces_slash (path : List Char) : pieces ('/' :: path) = [] :: pieces path := by
  obtain ⟨first, others, parts⟩ := List.exists_cons_of_ne_nil (pieces_ne_nil path)
  rw [pieces, parts]

theorem pieces_cons {c : Char} (other : c ≠ '/') {path first : List Char} {others : List (List Char)}
    (parts : pieces path = first :: others) : pieces (c :: path) = (c :: first) :: others := by
  simp only [pieces, parts]

theorem pieces_of_noSlash {path : List Char} (noSlash : '/' ∉ path) : pieces path = [path] := by
  induction path with
  | nil => rfl
  | cons c rest ih =>
    obtain ⟨other, noSlash⟩ := not_or.mp (mt List.mem_cons.mpr noSlash)
    exact pieces_cons (Ne.symm other) (ih noSlash)

theorem shownName_of_noSlash {name : String} (noSlash : '/' ∉ name.toList) : shownName name = name := by
  simp only [shownName, fileName?, components, pieces_of_noSlash noSlash]
  cases isComponent true name.toList with
  | false => simp
  | true =>
    by_cases dots : name = "." ∨ name = ".."
    · simp [dots]
    · simp [dots]

theorem pieces_append (base path : List Char) : pieces (base ++ '/' :: path) = pieces base ++ pieces path := by
  induction base with
  | nil => exact pieces_slash path
  | cons c base ih =>
    by_cases slash : c = '/'
    · rw [slash, List.cons_append, pieces_slash, pieces_slash, ih, List.cons_append]
    · obtain ⟨first, others, parts⟩ := List.exists_cons_of_ne_nil (pieces_ne_nil base)
      rw [parts] at ih
      rw [List.cons_append, pieces_cons slash ih, pieces_cons slash parts]
      rfl

theorem noSlash_of_mem_pieces {path piece : List Char} (member : piece ∈ pieces path) : '/' ∉ piece := by
  induction path generalizing piece with
  | nil =>
    cases List.mem_singleton.1 member
    exact List.not_mem_nil
  | cons c path ih =>
    by_cases slash : c = '/'
    · rw [slash, pieces_slash] at member
      obtain rfl | member := List.mem_cons.1 member
      · exact List.not_mem_nil
      · exact ih member
    · obtain ⟨first, others, parts⟩ := List.exists_cons_of_ne_nil (pieces_ne_nil path)
      rw [pieces_cons slash parts] at member
      rw [parts] at ih
      obtain rfl | member := List.mem_cons.1 member
      · exact List.not_mem_cons_of_ne_of_not_mem (Ne.symm slash) (ih List.mem_cons_self)
      · exact ih (List.mem_cons_of_mem _ member)

theorem steps_empty : steps "" = [] := by decide

/-- The steps before a slash come first, whatever stands behind it. -/
theorem steps_of_slash {text before behind : String}
    (split : text.toList = before.toList ++ '/' :: behind.toList) : steps text = steps before ++ steps behind := by
  simp only [steps, split, pieces_append, List.map_append, List.filter_append]

theorem steps_join {path : String} (relative : isAbsolute path = false) (base : String) :
    steps (join base path) = steps base ++ steps path := by
  rw [join, relative, Bool.false_or]
  split
  next empty =>
    obtain rfl : base = "" := String.isEmpty_iff.1 empty
    rw [steps_empty, List.nil_append]
  next some =>
    split
    next slash =>
      obtain ⟨front, ended⟩ := List.getLast?_eq_some_iff.1 slash
      have before : steps base = steps (String.ofList front) ++ steps "" :=
        steps_of_slash (by rw [ended, String.toList_ofList]; rfl)
      have whole : steps (base ++ path) = steps (String.ofList front) ++ steps path :=
        steps_of_slash (by simp [ended])
      rw [whole, before, steps_empty, List.append_nil]
    next => exact steps_of_slash (by simp)

theorem isAbsolute_join {path base : String} (relative : isAbsolute path = false) (some : base ≠ "") :
    isAbsolute (join base path) = isAbsolute base := by
  have first : base.toList ≠ [] := mt String.toList_eq_nil_iff.1 some
  rw [join, relative, Bool.false_or, if_neg (mt String.isEmpty_iff.1 some)]
  split <;> simp [isAbsolute, List.head?_append, List.head?_eq_some_head first]

theorem IsName.steps {name : String} (named : IsName name) : steps name = [name] := by
  obtain ⟨some, dot, -, noSlash⟩ := named
  simp [Path.steps, pieces_of_noSlash noSlash, some, dot]

theorem IsName.relative {name : String} (named : IsName name) : isAbsolute name = false := by
  apply decide_eq_false
  intro slash
  exact named.2.2.2 (List.mem_of_mem_head? slash)

theorem isName_of_mem_steps {path part : String} (member : part ∈ steps path) (onward : part ≠ "..") :
    IsName part := by
  obtain ⟨among, proper⟩ := List.mem_filter.1 member
  obtain ⟨piece, inside, rfl⟩ := List.mem_map.1 among
  obtain ⟨some, dot⟩ := of_decide_eq_true proper
  refine ⟨some, dot, onward, ?_⟩
  rw [String.toList_ofList]
  exact noSlash_of_mem_pieces inside

theorem resolve_relative {path : String} (relative : isAbsolute path = false) (current : List String) :
    resolve current path = (steps path).foldl step current := by
  rw [resolve, relative]
  rfl

theorem join_absolute {path : String} (absolute : isAbsolute path = true) (base : String) : join base path = path := by
  rw [join, absolute]
  rfl

theorem resolve_join {path : String} (relative : isAbsolute path = false) (current : List String) (base : String) :
    resolve current (join base path) = resolve (resolve current base) path := by
  rw [resolve_relative relative (resolve current base), resolve, resolve, steps_join relative, List.foldl_append]
  by_cases empty : base = ""
  · subst empty
    have same : join "" path = path := by
      rw [join, relative]
      rfl
    rw [same, relative]
    rfl
  · rw [isAbsolute_join relative empty]

theorem IsName.resolve {name : String} (named : IsName name) (current : List String) :
    resolve current name = current ++ [name] := by
  rw [resolve_relative named.relative, named.steps]
  exact if_neg named.2.2.1

end Path

namespace FileStore

theorem walk_place {root : Entry} {origin steps place : List String} (walked : walk root origin steps = .ok place) :
    place.reverse = (steps.filter (· ≠ ".")).foldl Path.step origin.reverse := by
  induction steps generalizing origin with
  | nil =>
    cases walked
    rfl
  | cons step steps ih =>
    unfold walk at walked
    split at walked
    · cases walked
    · cases walked
    split at walked
    next dot => simpa [dot] using ih walked
    next dot =>
      rw [List.filter_cons_of_pos (by simpa using dot), List.foldl_cons]
      split at walked
      next up => rw [ih walked, Path.step, if_pos up, List.dropLast_reverse]
      next name => rw [ih walked, Path.step, if_neg name, List.reverse_cons]

/-- What a store finds under a path is reached by a walk along its steps; a dot stands for a slash at its end. -/
theorem walk_of_locate {store : FileStore} {path : String} {place : List String}
    (located : store.locate path = .ok place) : ∃ steps reached, reached.reverse = place ∧
      walk store.root (if Path.isAbsolute path then [] else store.current.reverse) steps = .ok reached ∧
      steps ≠ [] ∧ steps.filter (· ≠ ".") = Path.steps path := by
  unfold locate at located
  dsimp only at located
  split at located
  · cases located
  split at located
  · cases located
  cases walked : walk store.root _ _ with
  | error =>
    rw [walked] at located
    cases located
  | ok reached =>
    rw [walked] at located
    refine ⟨_, reached, by simpa [Except.map] using located, walked, ?some, ?onward⟩
    case some =>
      split
      next => exact List.append_ne_nil_of_right_ne_nil _ (List.cons_ne_nil _ _)
      next noSlash =>
        obtain ⟨last, ended⟩ := List.getLast?_isSome.2 (mt List.map_eq_nil_iff.1 (Path.pieces_ne_nil path.toList))
          |> Option.isSome_iff_exists.1
        have named : last ≠ "" := fun empty => noSlash (empty ▸ ended)
        exact List.ne_nil_of_mem (List.mem_filter.2 ⟨List.mem_of_getLast? ended, by simpa using named⟩)
    case onward =>
      rw [Path.steps]
      split <;> simp [List.filter_filter, Bool.and_comm]

theorem locate_place {store : FileStore} {path : String} {place : List String}
    (located : store.locate path = .ok place) : place = Path.resolve store.current path := by
  obtain ⟨steps, reached, rfl, walked, -, onward⟩ := walk_of_locate located
  rw [walk_place walked, onward, Path.resolve]
  split <;> simp

end FileStore

end GrammarFlow
