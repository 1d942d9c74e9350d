import GrammarFlow.Proofs.FileWrites
import GrammarFlow.Proofs.MarkRestoration
import GrammarFlow.Workflow.Compilation

/-!
Taking the marks out of files a second time. The first pass puts files without marks in place of those with
marks, so the second finds nothing to do, and nothing tells it where the actions came from.
-/

namespace GrammarFlow

namespace FileWork
variable {α β : Type}

theorem run_bind (work : FileWork α) (next : α → FileWork β) (files : FileStore) :
    (work >>= next).run files = match work.run files with
      | (.ok value, files) => (next value).run files
      | (.error error, files) => (.error error, files) := by
  have step : (work >>= next).run files = ExceptT.bindCont next (work.run files).1 (work.run files).2 := rfl
  rw [step]
  obtain ⟨result, after⟩ := work.run files
  cases result <;> rfl

theorem run_ask (query : FileStore → Except FileError α) (files : FileStore) :
    (ask query).run files = match query files with
      | .ok value => (.ok value, files)
      | .error error => (.error (.io error.message), files) := by
  have step : (ask query).run files = (readable (query files)).run files := rfl
  rw [step]
  cases query files <;> rfl

theorem run_change (step : FileStore → Except FileError FileStore) (files : FileStore) :
    (change step).run files = match step files with
      | .ok after => (.ok (), after)
      | .error error => (.error (.io error.message), files) := by
  rw [change, run_bind, run_ask]
  cases step files <;> rfl

end FileWork

def Unmarked (marks : MarkStyle) (text : String) : Prop := findFirst marks.readOpen text.toList = none

/-- If the marks can be taken out of this text, none is left behind. -/
def StripsClean (marks : MarkStyle) (grammar : List Span) (text : String) : Prop :=
  ∀ regions tail, splitMarks marks grammar.length text.toList = .ok (regions, tail) →
    findFirst marks.readOpen (joinRegions regions tail) = none

instance (marks : MarkStyle) (grammar : List Span) (text : String) :
    Decidable (StripsClean marks grammar text) :=
  match cut : splitMarks marks grammar.length text.toList with
  | .error _ => isTrue fun _ _ same => nomatch cut.symm.trans same
  | .ok (regions, tail) =>
    decidable_of_iff (findFirst marks.readOpen (joinRegions regions tail) = none)
      ⟨fun clean _ _ same => by cases cut.symm.trans same; exact clean, fun clean => clean regions tail cut⟩

theorem FragmentMap.strip_unmarked {marks : MarkStyle} {text : String} (unmarked : Unmarked marks text)
    (name : String) (grammar : List Span) : strip name text marks grammar = .ok ⟨⟨name, text⟩, []⟩ := by
  rw [strip, splitMarks_of_none unmarked]
  simp [bind, Except.bind, pure, Except.pure, joinRegions, placeRegions]

theorem Unmarked.stripsClean {marks : MarkStyle} {text : String} (unmarked : Unmarked marks text)
    (grammar : List Span) : StripsClean marks grammar text := by
  intro regions tail cut
  rw [splitMarks_of_none unmarked] at cut
  cases cut
  exact unmarked

theorem StripsClean.unmarked {marks : MarkStyle} {name text : String} {grammar : List Span}
    {file : FragmentMap} (clean : StripsClean marks grammar text)
    (stripped : FragmentMap.strip name text marks grammar = .ok file) : Unmarked marks file.source.text := by
  obtain ⟨regions, tail, cut, source, -⟩ := FragmentMap.split_of_strip stripped
  rw [Unmarked, source, String.toList_ofList]
  exact clean regions tail cut

theorem findFirst_of_splitMarks_nil {marks : MarkStyle} {known : Nat} {text tail : List Char}
    (cut : splitMarks marks known text = .ok ([], tail)) : findFirst marks.readOpen text = none := by
  rw [splitMarks] at cut
  split at cut
  next nowhere => exact nowhere
  next before number inner opened =>
    split at cut
    · cases cut
    · split at cut
      · cases cut
      next body closing rest closed =>
        split at cut
        · cases cut
        · cases later : splitMarks marks known rest <;> rw [later] at cut <;> cases cut

/-- A file in which no copy is found has no marks. -/
theorem FragmentMap.unmarked_of_strip {marks : MarkStyle} {name text : String} {grammar : List Span}
    {file : FragmentMap} (stripped : strip name text marks grammar = .ok file)
    (nothing : file.fragments = []) : Unmarked marks text := by
  obtain ⟨regions, tail, cut, -, fragments⟩ := split_of_strip stripped
  cases regions with
  | nil => exact findFirst_of_splitMarks_nil cut
  | cons region regions =>
    have inside := ((eq_markRegions_of_splitMarks cut).2 region List.mem_cons_self).1
    rw [nothing] at fragments
    simp [placeRegions, inside] at fragments

namespace Compilation
variable {marks : MarkStyle} {fragments : List Span}

theorem stripFiles_cons (maps : FragmentMaps) (path : String) (paths : List String) (files : FileStore) :
    (stripFiles marks fragments maps (path :: paths)).run files =
      match files.readText path with
      | .error error => (.error (.io error.message), files)
      | .ok text =>
        match FragmentMap.strip (Path.shownName path) text marks fragments with
        | .error error => (.error (.internal (Path.shownName path ++ ": " ++ error.message)), files)
        | .ok map =>
          if map.fragments.isEmpty then (stripFiles marks fragments maps paths).run files
          else
            match files.writeText path map.source.text with
            | .error error => (.error (.io error.message), files)
            | .ok files =>
              (stripFiles marks fragments ((Path.shownName path, map) :: maps) paths).run files := by
  rw [stripFiles, FileWork.run_bind, FileWork.run_ask]
  cases files.readText path with
  | error => rfl
  | ok text =>
    dsimp only
    cases FragmentMap.strip (Path.shownName path) text marks fragments with
    | error => rfl
    | ok map =>
      simp only [pure_bind]
      split
      next => rfl
      next =>
        rw [FileWork.run_bind, FileWork.run_change]
        cases files.writeText path map.source.text <;> rfl

/-- What becomes of one file in a pass, and how the pass goes on. -/
inductive Passes (marks : MarkStyle) (fragments : List Span) (maps : FragmentMaps) (path : String)
    (paths : List String) (files : FileStore) : Except StageFailure FragmentMaps × FileStore → Prop where
  | unread {error : FileError} (unread : files.readText path = .error error) :
      Passes marks fragments maps path paths files (.error (.io error.message), files)
  | damaged {text : String} {error : MarkError} (read : files.readText path = .ok text)
      (damaged : FragmentMap.strip (Path.shownName path) text marks fragments = .error error) :
      Passes marks fragments maps path paths files
        (.error (.internal (Path.shownName path ++ ": " ++ error.message)), files)
  | plain {text : String} (read : files.readText path = .ok text)
      (unmarked : Unmarked marks text) :
      Passes marks fragments maps path paths files ((stripFiles marks fragments maps paths).run files)
  | marked {text : String} {map : FragmentMap} {after : FileStore} (read : files.readText path = .ok text)
      (stripped : FragmentMap.strip (Path.shownName path) text marks fragments = .ok map)
      (marked : ¬Unmarked marks text) (itself : after.readText path = .ok map.source.text)
      (others : ∀ other, after.readText other = files.readText other ∨
        files.readText other = .ok text ∧ after.readText other = .ok map.source.text) :
      Passes marks fragments maps path paths files
        ((stripFiles marks fragments ((Path.shownName path, map) :: maps) paths).run after)

theorem stripFiles_passes (marks : MarkStyle) (fragments : List Span) (maps : FragmentMaps) (path : String)
    (paths : List String) (files : FileStore) :
    Passes marks fragments maps path paths files
      ((stripFiles marks fragments maps (path :: paths)).run files) := by
  rw [stripFiles_cons]
  cases read : files.readText path with
  | error error => exact .unread read
  | ok text =>
    dsimp only
    cases stripped : FragmentMap.strip (Path.shownName path) text marks fragments with
    | error error => exact .damaged read stripped
    | ok map =>
      dsimp only
      by_cases nothing : map.fragments.isEmpty = true
      · rw [if_pos nothing]
        exact .plain read (FragmentMap.unmarked_of_strip stripped (List.isEmpty_iff.1 nothing))
      · rw [if_neg nothing]
        obtain ⟨after, written, itself, others⟩ := FileStore.writeText_there read map.source.text
        rw [written]
        refine .marked read stripped ?_ itself others
        intro unmarked
        rw [FragmentMap.strip_unmarked unmarked] at stripped
        cases stripped
        exact nothing rfl

variable {maps : FragmentMaps} {paths : List String} {files after : FileStore}
  {result : Except StageFailure FragmentMaps}

theorem stripFiles_keeps {other text : String} (read : files.readText other = .ok text)
    (unmarked : Unmarked marks text)
    (done : (stripFiles marks fragments maps paths).run files = (result, after)) :
    after.readText other = .ok text := by
  induction paths generalizing maps files with
  | nil =>
    cases done
    exact read
  | cons path paths ih =>
    have passes := stripFiles_passes marks fragments maps path paths files
    generalize (stripFiles marks fragments maps (path :: paths)).run files = outcome at done passes
    cases passes with
    | unread | damaged =>
      cases done
      exact read
    | plain => exact ih read done
    | marked _ _ marked _ others =>
      obtain same | ⟨before, -⟩ := others other
      · exact ih (same.trans read) done
      · rw [read] at before
        cases before
        exact absurd unmarked marked

theorem stripsClean_after {old new : String} (clean : ∀ path ∈ paths, ∀ text, files.readText path = .ok text →
      StripsClean marks fragments text)
    (others : ∀ other, after.readText other = files.readText other ∨
      files.readText other = .ok old ∧ after.readText other = .ok new) (unmarked : Unmarked marks new) :
    ∀ path ∈ paths, ∀ text, after.readText path = .ok text → StripsClean marks fragments text := by
  intro path later text read
  obtain unchanged | ⟨-, written⟩ := others path
  · exact clean path later text (unchanged ▸ read)
  · rw [written] at read
    cases read
    exact unmarked.stripsClean fragments

/-- The second pass over files that read as the first has left them changes none of them and finds no copies. It
fails where the first has failed. -/
theorem stripFiles_again (clean : ∀ path ∈ paths, ∀ text, files.readText path = .ok text →
      StripsClean marks fragments text)
    (done : (stripFiles marks fragments maps paths).run files = (result, after)) {left : FileStore}
    (same : ∀ path ∈ paths, left.readText path = after.readText path) (found : FragmentMaps) :
    (stripFiles marks fragments found paths).run left = (result.map fun _ => found, left) := by
  induction paths generalizing maps files with
  | nil =>
    cases done
    rfl
  | cons path paths ih =>
    obtain ⟨sameHere, same⟩ := List.forall_mem_cons.1 same
    obtain ⟨cleanHere, clean⟩ := List.forall_mem_cons.1 clean
    have passes := stripFiles_passes marks fragments maps path paths files
    generalize (stripFiles marks fragments maps (path :: paths)).run files = outcome at done passes
    rw [stripFiles_cons, sameHere]
    cases passes with
    | unread unread =>
      cases done
      rw [unread]
      rfl
    | damaged read damaged =>
      cases done
      rw [read]
      dsimp only
      rw [damaged]
      rfl
    | plain read unmarked =>
      rw [stripFiles_keeps read unmarked done]
      dsimp only
      rw [FragmentMap.strip_unmarked unmarked]
      exact ih clean done same
    | marked read stripped marked itself others =>
      have unmarked := (cleanHere _ read).unmarked stripped
      rw [stripFiles_keeps itself unmarked done]
      dsimp only
      rw [FragmentMap.strip_unmarked unmarked]
      exact ih (stripsClean_after clean others unmarked) done same

/-- Every file of which there is a map is one of these, and reads as the map has it. -/
def Mapped (marks : MarkStyle) (directory : String) (paths : List String) (files : FileStore)
    (maps : FragmentMaps) : Prop :=
  ∀ name file, maps.lookup name = some file → file.source.name = name ∧ Path.join directory name ∈ paths ∧
    files.readText (Path.join directory name) = .ok file.source.text ∧ Unmarked marks file.source.text

theorem mapped_nil (marks : MarkStyle) (directory : String) (paths : List String) (files : FileStore) :
    Mapped marks directory paths files [] := by
  intro name file known
  cases known

theorem Mapped.congr {directory : String} (mapped : Mapped marks directory paths files maps)
    (same : ∀ path ∈ paths, after.readText path = files.readText path) :
    Mapped marks directory paths after maps := by
  intro name file known
  obtain ⟨called, listed, held, plain⟩ := mapped name file known
  exact ⟨called, listed, (same _ listed).trans held, plain⟩

theorem stripFiles_mapped {directory : String} {all : List String} (within : ∀ path ∈ paths, path ∈ all)
    (placed : ∀ path ∈ all, path = Path.join directory (Path.shownName path))
    (clean : ∀ path ∈ paths, ∀ text, files.readText path = .ok text → StripsClean marks fragments text)
    (mapped : Mapped marks directory all files maps) {found : FragmentMaps}
    (done : (stripFiles marks fragments maps paths).run files = (.ok found, after)) :
    Mapped marks directory all after found := by
  induction paths generalizing maps files with
  | nil =>
    cases done
    exact mapped
  | cons path paths ih =>
    obtain ⟨listed, within⟩ := List.forall_mem_cons.1 within
    obtain ⟨cleanHere, clean⟩ := List.forall_mem_cons.1 clean
    have passes := stripFiles_passes marks fragments maps path paths files
    generalize (stripFiles marks fragments maps (path :: paths)).run files = outcome at done passes
    cases passes with
    | unread | damaged => cases done
    | plain => exact ih within clean mapped done
    | @marked text map written read stripped marked itself others =>
      have unmarked := (cleanHere _ read).unmarked stripped
      refine ih within (stripsClean_after clean others unmarked) ?_ done
      intro name file known
      rw [List.lookup_cons] at known
      by_cases here : name = Path.shownName path
      · rw [beq_iff_eq.2 here] at known
        cases known
        have place : Path.join directory name = path := by rw [here, ← placed path listed]
        obtain ⟨regions, tail, written, numbers, source, copies⟩ := FragmentMap.regions_of_strip stripped
        rw [place]
        exact ⟨by rw [source, here], listed, itself, unmarked⟩
      · rw [beq_false_of_ne here] at known
        obtain ⟨called, listed, held, plain⟩ := mapped name file known
        refine ⟨called, listed, ?_, plain⟩
        obtain same | ⟨before, -⟩ := others (Path.join directory name)
        · exact same.trans held
        · rw [held] at before
          cases before
          exact absurd plain marked

theorem stripMarks_again (clean : ∀ path ∈ paths, ∀ text, files.readText path = .ok text →
      StripsClean marks fragments text)
    (done : (stripMarks marks fragments paths).run files = (result, after)) {left : FileStore}
    (same : ∀ path ∈ paths, left.readText path = after.readText path) :
    (stripMarks marks fragments paths).run left = (result.map fun _ => [], left) := by
  unfold stripMarks at done ⊢
  split
  next none =>
    rw [if_pos none] at done
    cases done
    rfl
  next some =>
    rw [if_neg some] at done
    exact stripFiles_again clean done same []

theorem stripMarks_mapped {directory : String}
    (placed : ∀ path ∈ paths, path = Path.join directory (Path.shownName path))
    (clean : ∀ path ∈ paths, ∀ text, files.readText path = .ok text → StripsClean marks fragments text)
    {found : FragmentMaps} (done : (stripMarks marks fragments paths).run files = (.ok found, after)) :
    Mapped marks directory paths after found := by
  unfold stripMarks at done
  split at done
  · cases done
    exact mapped_nil marks directory paths files
  · exact stripFiles_mapped (fun _ listed => listed) placed clean (mapped_nil marks directory paths files) done

end Compilation

end GrammarFlow
