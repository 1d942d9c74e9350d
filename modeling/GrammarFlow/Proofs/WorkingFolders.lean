import GrammarFlow.Proofs.FileWrites
import GrammarFlow.Proofs.GrammarNames
import GrammarFlow.Proofs.PathPlaces
import GrammarFlow.Target.Settings

/-!
The working folders of grammars and targets. A grammar's name is the name of a folder, but a target's may be any text,
and it is joined to the path as it is. A working folder belongs to one grammar and target alone exactly if the target's
name is the name of a folder too; then nothing of others is lost when the working folder is taken away.
-/

namespace GrammarFlow

namespace Entry

theorem lookup_without (name other : String) (entries : List (String × Entry)) :
    (setName name none entries).lookup other = if other = name then none else entries.lookup other := by
  rw [setName]
  induction entries with
  | nil => exact (ite_self _).symm
  | cons entry entries ih =>
    obtain ⟨key, entry⟩ := entry
    by_cases same : key = name
    · rw [List.filter_cons_of_neg (by simpa using same), ih, List.lookup_cons, same]
      split
      next => rfl
      next apart => rw [beq_false_of_ne apart]
    · rw [List.filter_cons_of_pos (by simpa using same), List.lookup_cons, List.lookup_cons, ih]
      by_cases asked : other = name
      · rw [if_pos asked, if_pos asked, asked, beq_false_of_ne (Ne.symm same)]
      · rw [if_neg asked, if_neg asked]

/-- Taking something away inside a folder changes one entry of it. -/
theorem put_none_folder (name : String) (place : List String) (entries : List (String × Entry)) :
    ∃ later, (folder entries).put (name :: place) none = folder later ∧
      (∀ other, other ≠ name → later.lookup other = entries.lookup other) ∧
      later.lookup name = if place = [] then none else (entries.lookup name).map (put place none) := by
  cases place with
  | nil =>
    refine ⟨_, rfl, fun other apart => ?_, ?_⟩
    · rw [lookup_without, if_neg apart]
    · rw [lookup_without, if_pos rfl, if_pos rfl]
  | cons next place =>
    rw [if_neg (List.cons_ne_nil next place)]
    cases found : entries.lookup name with
    | none => exact ⟨entries, by simp only [put, found], fun _ _ => rfl, found⟩
    | some child =>
      refine ⟨_, by simp only [put, found]; rfl, fun other apart => ?_, ?_⟩
      · rw [lookup_setName found, if_neg apart]
      · rw [lookup_setName found, if_pos rfl, Option.map_some]

theorem at?_gone (root : Entry) {place names : List String} (some : place ≠ []) (below : place <+: names) :
    (root.put place none).at? names = none := by
  induction place generalizing root names with
  | nil => exact absurd rfl some
  | cons name place ih =>
    obtain ⟨inside, rfl⟩ := below
    cases root with
    | file => cases place <;> rfl
    | folder entries =>
      obtain ⟨later, taken, -, here⟩ := put_none_folder name place entries
      rw [taken]
      change (later.lookup name).bind (at? (place ++ inside)) = none
      rw [here]
      split
      next => rfl
      next onward =>
        cases entries.lookup name with
        | none => rfl
        | some child => exact ih child onward (List.prefix_append place inside)

/-- What is left behind names once an entry has been taken away: all that was there, or a folder on the way to the
entry. -/
theorem at?_taken (root : Entry) {place names : List String} (outside : ¬place <+: names) :
    let after := (root.put place none).at? names
    after = root.at? names ∨ names <+: place ∧
      ∃ earlier later, root.at? names = some (.folder earlier) ∧ after = some (.folder later) := by
  induction place generalizing root names with
  | nil => exact absurd List.nil_prefix outside
  | cons name place ih =>
    cases root with
    | file =>
      left
      cases place <;> rfl
    | folder entries =>
      obtain ⟨later, taken, others, inside⟩ := put_none_folder name place entries
      rw [taken]
      cases names with
      | nil => exact .inr ⟨List.nil_prefix, entries, later, rfl, rfl⟩
      | cons other names =>
        have step (entries : List (String × Entry)) :
            (folder entries).at? (other :: names) = (entries.lookup other).bind (at? names) := rfl
        rw [step, step]
        by_cases same : other = name
        · subst same
          have outside : ¬place <+: names := fun below => outside (List.cons_prefix_cons.2 ⟨rfl, below⟩)
          have onward : place ≠ [] := fun ends => outside (ends ▸ List.nil_prefix)
          rw [inside, if_neg onward]
          cases entries.lookup other with
          | none => exact .inl rfl
          | some child =>
            obtain kept | ⟨onTheWay, folders⟩ := ih child outside
            · exact .inl kept
            · exact .inr ⟨List.cons_prefix_cons.2 ⟨rfl, onTheWay⟩, folders⟩
        · exact .inl (congrArg (Option.bind · _) (others other same))

end Entry

namespace FileStore

theorem root_of_removeFolder {files after : FileStore} {path : String} (removed : files.removeFolder path = .ok after) :
    after.root = files.root.put (Path.resolve files.current path) none := by
  unfold removeFolder at removed
  cases located : files.locate path with
  | error =>
    rw [located] at removed
    cases removed
  | ok place =>
    obtain rfl := locate_place located
    rw [located] at removed
    dsimp only [bind, Except.bind] at removed
    split at removed
    next => cases removed
    next => cases removed
    next =>
      cases removed
      rfl

end FileStore

namespace Path

/-- From a folder on, the steps of a relative path stay inside it, or they leave it and it makes no difference which
folder it was. -/
theorem inside_or_left (steps home names : List String) :
    (∃ place, ∀ folder, steps.foldl step (home ++ folder :: names) = place) ∨
      ∃ inner, (∀ name ∈ inner, name ∈ names ∨ name ∈ steps ∧ name ≠ "..") ∧
        ∀ folder, steps.foldl step (home ++ folder :: names) = home ++ folder :: inner := by
  induction steps generalizing names with
  | nil => exact .inr ⟨names, fun _ member => .inl member, fun _ => rfl⟩
  | cons part steps ih =>
    by_cases up : part = ".."
    · obtain rfl | ⟨front, last, rfl⟩ := List.eq_nil_or_concat names
      · left
        refine ⟨steps.foldl step home, fun folder => ?_⟩
        rw [List.foldl_cons, step, if_pos up, List.dropLast_concat]
      · rw [List.concat_eq_append]
        have back (folder : String) : step (home ++ folder :: (front ++ [last])) part = home ++ folder :: front := by
          rw [step, if_pos up, ← List.cons_append, ← List.append_assoc, List.dropLast_concat]
        simp only [List.foldl_cons, back]
        obtain left | ⟨inner, known, stays⟩ := ih front
        · exact .inl left
        · refine .inr ⟨inner, fun name member => ?_, stays⟩
          obtain earlier | ⟨later, proper⟩ := known name member
          · exact .inl (List.mem_append_left _ earlier)
          · exact .inr ⟨List.mem_cons_of_mem _ later, proper⟩
    · have on (folder : String) : step (home ++ folder :: names) part = home ++ folder :: (names ++ [part]) := by
        rw [step, if_neg up, List.append_assoc, List.cons_append]
      simp only [List.foldl_cons, on]
      obtain left | ⟨inner, known, stays⟩ := ih (names ++ [part])
      · exact .inl left
      · refine .inr ⟨inner, fun name member => ?_, stays⟩
        obtain earlier | ⟨later, proper⟩ := known name member
        · obtain earlier | here := List.mem_append.1 earlier
          · exact .inl earlier
          · cases List.mem_singleton.1 here
            exact .inr ⟨List.mem_cons_self, up⟩
        · exact .inr ⟨List.mem_cons_of_mem _ later, proper⟩

end Path

def Apart (place other : List String) : Prop := ¬place <+: other ∧ ¬other <+: place

theorem Apart.outside {place other names : List String} (apart : Apart place other) (below : other <+: names) :
    ¬place <+: names ∧ ¬names <+: place :=
  ⟨fun above => (List.prefix_or_prefix_of_prefix above below).elim apart.1 apart.2,
    fun above => apart.2 (below.trans above)⟩

namespace Workspace
variable {workspace : Workspace} {current : List String} {files : FileStore} {grammar id : String}

def helperPlace (workspace : Workspace) (current : List String) : List String :=
  Path.resolve current workspace.helperDirectory

def place (workspace : Workspace) (current : List String) (grammar id : String) : List String :=
  Path.resolve current (workspace.workingDirectory grammar id)

theorem place_absolute (absolute : Path.isAbsolute id = true) :
    workspace.place current grammar id = Path.resolve current id := by
  rw [place, workingDirectory, Path.join_absolute absolute]

theorem place_relative (named : Path.IsName grammar) (relative : Path.isAbsolute id = false) :
    workspace.place current grammar id =
      (Path.steps id).foldl Path.step (workspace.helperPlace current ++ [grammar]) := by
  rw [place, workingDirectory, Path.resolve_join relative, Path.resolve_join named.relative, named.resolve,
    Path.resolve_relative relative]
  rfl

theorem place_of_isName (named : Path.IsName grammar) (idNamed : Path.IsName id) :
    workspace.place current grammar id = workspace.helperPlace current ++ [grammar, id] := by
  rw [place_relative named idNamed.relative, ← Path.resolve_relative idNamed.relative, idNamed.resolve,
    List.append_assoc]
  rfl

/-- Another pair that may be in use beside a grammar and a target: of any target with a name for a folder, or of the
same target. -/
structure Beside (grammar id other otherId : String) : Prop where
  accepted : Declarations.Accepts other
  named : Path.IsName otherId ∨ otherId = id
  different : (grammar, id) ≠ (other, otherId)

/-- The working folder of a grammar and a target is theirs alone. It is below the helper folder and apart from those of
others, and taking it away leaves nothing of it but loses nothing of theirs and nothing outside the helper folder. -/
structure Owned (workspace : Workspace) (files : FileStore) (grammar id : String) : Prop where
  below : ∃ name inside,
    workspace.place files.current grammar id = workspace.helperPlace files.current ++ name :: inside
  apart : ∀ other otherId, Beside grammar id other otherId →
    Apart (workspace.place files.current grammar id) (workspace.place files.current other otherId)
  gone : ∀ after, files.removeFolder (workspace.workingDirectory grammar id) = .ok after →
    ∀ names, workspace.place files.current grammar id <+: names → after.root.at? names = none
  others : ∀ after, files.removeFolder (workspace.workingDirectory grammar id) = .ok after →
    ∀ other otherId names, Beside grammar id other otherId → workspace.place files.current other otherId <+: names →
      after.root.at? names = files.root.at? names
  outside : ∀ after, files.removeFolder (workspace.workingDirectory grammar id) = .ok after →
    ∀ names, ¬workspace.helperPlace files.current <+: names → after.root.at? names = files.root.at? names ∨
      names <+: workspace.helperPlace files.current ∧
        ∃ earlier later, files.root.at? names = some (.folder earlier) ∧ after.root.at? names = some (.folder later)

theorem apart_of_isName (named : Path.IsName id) (accepted : Declarations.Accepts grammar) {other otherId : String}
    (beside : Beside grammar id other otherId) :
    Apart (workspace.place current grammar id) (workspace.place current other otherId) := by
  have otherNamed : Path.IsName otherId := beside.named.elim (fun name => name) fun same => same ▸ named
  rw [place_of_isName accepted.isName named, place_of_isName beside.accepted.isName otherNamed]
  have same (a b c d : String) (above : [a, b] <+: [c, d]) : (a, b) = (c, d) := by
    cases above.eq_of_length rfl
    rfl
  refine ⟨fun above => ?_, fun above => ?_⟩
  · exact beside.different (same _ _ _ _ ((List.prefix_append_right_inj _).1 above))
  · exact beside.different (same _ _ _ _ ((List.prefix_append_right_inj _).1 above)).symm

theorem owned_of_isName (named : Path.IsName id) (accepted : Declarations.Accepts grammar) :
    workspace.Owned files grammar id where
  below := ⟨grammar, [id], place_of_isName accepted.isName named⟩
  apart _ _ beside := apart_of_isName named accepted beside
  gone after removed names below := by
    rw [FileStore.root_of_removeFolder removed]
    refine Entry.at?_gone files.root ?_ below
    rw [← place, place_of_isName accepted.isName named]
    exact List.append_ne_nil_of_right_ne_nil _ (List.cons_ne_nil _ _)
  others after removed other otherId names beside below := by
    obtain ⟨outside, above⟩ := (apart_of_isName named accepted beside).outside below
    rw [FileStore.root_of_removeFolder removed]
    obtain kept | ⟨onTheWay, -⟩ := Entry.at?_taken files.root outside
    · exact kept
    · exact absurd onTheWay above
  outside after removed names outside := by
    have inside : workspace.helperPlace files.current <+: workspace.place files.current grammar id := by
      rw [place_of_isName accepted.isName named]
      exact List.prefix_append _ _
    rw [FileStore.root_of_removeFolder removed]
    obtain kept | ⟨onTheWay, folders⟩ := Entry.at?_taken files.root (mt inside.trans outside)
    · exact .inl kept
    · right
      refine ⟨?_, folders⟩
      obtain above | below := List.prefix_or_prefix_of_prefix onTheWay inside
      · exact above
      · exact absurd below outside

/-- A target without a name for a folder shares a working folder with others. -/
theorem not_apart (nameless : ¬Path.IsName id) (workspace : Workspace) (current : List String) :
    ∃ grammar other otherId, Declarations.Accepts grammar ∧ Beside grammar id other otherId ∧
      ¬Apart (workspace.place current grammar id) (workspace.place current other otherId) := by
  obtain ⟨a, b, accepted, accepted', different⟩ := Declarations.two_accepted
  have sameTarget : Beside a id b id := ⟨accepted', .inr rfl, fun same => different (Prod.mk.inj same).1⟩
  have shared (same : workspace.place current a id = workspace.place current b id) :
      ¬Apart (workspace.place current a id) (workspace.place current b id) :=
    fun apart => apart.1 (same ▸ List.prefix_rfl)
  have sameGrammar {otherId : String} (named : Path.IsName otherId) : Beside a id a otherId :=
    ⟨accepted, .inl named, fun same => nameless ((Prod.mk.inj same).2 ▸ named)⟩
  cases rooted : Path.isAbsolute id with
  | true =>
    refine ⟨a, b, id, accepted, sameTarget, shared ?_⟩
    rw [place_absolute rooted, place_absolute rooted]
  | false =>
    obtain ⟨place, left⟩ | ⟨inner, known, stays⟩ :=
      Path.inside_or_left (Path.steps id) (workspace.helperPlace current) []
    · refine ⟨a, b, id, accepted, sameTarget, shared ?_⟩
      rw [place_relative accepted.isName rooted, place_relative accepted'.isName rooted, left, left]
    · have here : workspace.place current a id = workspace.helperPlace current ++ a :: inner :=
        (place_relative accepted.isName rooted).trans (stays a)
      cases inner with
      | nil =>
        have named : Path.IsName "x" := by decide
        refine ⟨a, a, "x", accepted, sameGrammar named, fun apart => apart.1 ?_⟩
        rw [here, place_of_isName accepted.isName named, List.prefix_append_right_inj]
        exact List.prefix_append [a] ["x"]
      | cons name inner =>
        obtain none | ⟨member, onward⟩ := known name List.mem_cons_self
        · cases none
        have named : Path.IsName name := Path.isName_of_mem_steps member onward
        refine ⟨a, a, name, accepted, sameGrammar named, fun apart => apart.2 ?_⟩
        rw [here, place_of_isName accepted.isName named, List.prefix_append_right_inj]
        exact List.prefix_append [a, name] inner

/-- A working folder is owned by its grammar and target, whatever the grammar, exactly if the target's name is the name
of a folder. -/
theorem working_folder_owned_iff (workspace : Workspace) (files : FileStore) (id : String) :
    Path.IsName id ↔ ∀ grammar, Declarations.Accepts grammar → workspace.Owned files grammar id := by
  refine ⟨fun named grammar accepted => owned_of_isName named accepted, fun owned => ?_⟩
  refine Decidable.byContradiction fun nameless => ?_
  obtain ⟨grammar, other, otherId, accepted, beside, shared⟩ := not_apart nameless workspace files.current
  exact shared ((owned grammar accepted).apart other otherId beside)

theorem accepts_expr : Declarations.Accepts "Expr" :=
  ⟨.ofSources [⟨"Expr.g4", "grammar Expr;\nexpr : ID ;\nID : [a-z]+ ;\n"⟩], by decide +kernel⟩

def usedFiles : FileStore where
  root := .folder [("keep", .folder [("notes.txt", .file [109] false)]),
    ("GrammarLabHelper", .folder [("Expr", .folder [("java", .folder [("ExprParser.java", .file [99] false)]),
      ("shell", .folder [])])])]
  current := []

/-- A target beside another one: its working folder is removed and the other's is kept. -/
theorem shell_folder_owned : Path.IsName "shell" ∧
    (usedFiles.removeFolder ((default : Workspace).workingDirectory "Expr" "shell")).isOk = true ∧
      (default : Workspace).Owned usedFiles "Expr" "shell" :=
  ⟨by decide, by decide +kernel,
    (working_folder_owned_iff default usedFiles "shell").1 (by decide) "Expr" accepts_expr⟩

/-- The working folder of a target with an empty name holds that of every other target of the grammar, and the one of
a target that leads up is outside the helper folder; what is there is lost. -/
theorem nameless_targets_remove_others :
    let workspace : Workspace := default
    Declarations.Accepts "Expr" ∧ ("Expr", "") ≠ ("Expr", "java") ∧
      workspace.place [] "Expr" "" <+: workspace.place [] "Expr" "java" ∧
      ¬workspace.helperPlace [] <+: workspace.place [] "Expr" "../../keep" ∧
      (∃ after, usedFiles.removeFolder (workspace.workingDirectory "Expr" "") = .ok after ∧
        (usedFiles.root.at? ["GrammarLabHelper", "Expr", "java", "ExprParser.java"]).isSome = true ∧
          (after.root.at? ["GrammarLabHelper", "Expr", "java", "ExprParser.java"]).isSome = false) ∧
      ∃ after, usedFiles.removeFolder (workspace.workingDirectory "Expr" "../../keep") = .ok after ∧
        (usedFiles.root.at? ["keep", "notes.txt"]).isSome = true ∧
          (after.root.at? ["keep", "notes.txt"]).isSome = false := by
  refine ⟨accepts_expr, by decide, by decide, by decide, ⟨_, rfl, rfl, rfl⟩, _, rfl, rfl, rfl⟩

end Workspace

end GrammarFlow
