import GrammarFlow.Proofs.PathPlaces
import GrammarFlow.Proofs.TextEncoding

/-!
Writing to a file that is there. No folder comes or goes, so every path leads where it led before, and what is
read behind it is the same unless it is the file itself.
-/

namespace GrammarFlow

namespace Entry

theorem lookup_replace (name : String) (value : Entry) (entries : List (String × Entry)) (other : String) :
    (entries.map fun old => if old.1 = name then (name, value) else old).lookup other =
      if other = name ∧ (entries.lookup name).isSome then some value else entries.lookup other := by
  induction entries with
  | nil => simp
  | cons entry entries ih =>
    obtain ⟨key, entry⟩ := entry
    rw [List.map_cons, List.lookup_cons, List.lookup_cons, List.lookup_cons, ih]
    by_cases here : key = name <;> by_cases asked : other = key <;> grind

theorem lookup_setName {name : String} {entries : List (String × Entry)} {old : Entry}
    (there : entries.lookup name = some old) (value : Entry) (other : String) :
    (setName name (some value) entries).lookup other =
      if other = name then some value else entries.lookup other := by
  have present : entries.any (·.1 = name) = true := by
    obtain ⟨front, back, rfl, -⟩ := List.lookup_eq_some_iff.1 there
    simp
  simp only [setName, if_pos present]
  rw [lookup_replace, there]
  simp

/-- What is behind names once a file has been written: the file, or what was there, or a folder that was there
and has the file further down. -/
theorem at?_put {root : Entry} {place : List String} {old content : List UInt8} {executable mode : Bool}
    (there : root.at? place = some (.file old executable)) (below : place ≠ []) (names : List String) :
    let after := (root.put place (some (.file content mode))).at? names
    (names = place ∧ after = some (.file content mode)) ∨
      names ≠ place ∧ (after = root.at? names ∨
        ∃ earlier later, root.at? names = some (.folder earlier) ∧ after = some (.folder later)) := by
  induction place generalizing root names with
  | nil => exact absurd rfl below
  | cons name place ih =>
    cases root with
    | file => simp [at?, child?] at there
    | folder entries =>
      obtain ⟨child, found, inside⟩ := Option.bind_eq_some_iff.1 there
      change entries.lookup name = some child at found
      have put : (folder entries).put (name :: place) (some (.file content mode)) =
          folder (setName name (some (if place = [] then .file content mode
            else child.put place (some (.file content mode)))) entries) := by
        cases place with
        | nil => rfl
        | cons next place => simp [Entry.put, found]
      rw [put]
      cases names with
      | nil => exact .inr ⟨by simp, .inr ⟨_, _, rfl, rfl⟩⟩
      | cons other names =>
        have step (entries : List (String × Entry)) :
            (folder entries).at? (other :: names) = (entries.lookup other).bind (at? names) := rfl
        rw [step, step, lookup_setName found]
        by_cases same : other = name
        · subst same
          rw [if_pos rfl, found, Option.bind_some, Option.bind_some]
          by_cases last : place = []
          · subst last
            cases inside
            cases names with
            | nil => exact .inl ⟨rfl, rfl⟩
            | cons next names => exact .inr ⟨by simp, .inl rfl⟩
          · rw [if_neg last]
            obtain ⟨rfl, written⟩ | ⟨apart, kept⟩ := ih inside last names
            · exact .inl ⟨rfl, written⟩
            · exact .inr ⟨by simpa using apart, kept⟩
        · rw [if_neg same]
          exact .inr ⟨by simp [same], .inl rfl⟩

end Entry

namespace FileStore

theorem walk_congr {root other : Entry}
    (same : ∀ names, (root.at? names).map Entry.isFolder = (other.at? names).map Entry.isFolder)
    (place steps : List String) : walk root place steps = walk other place steps := by
  induction steps generalizing place with
  | nil => rfl
  | cons step steps ih =>
    have kind := same place.reverse
    cases here : root.at? place.reverse with
    | none =>
      rw [here] at kind
      have there : other.at? place.reverse = none := by simpa using kind.symm
      simp only [walk, here, there]
    | some entry =>
      rw [here, Option.map_some] at kind
      obtain ⟨twin, there, kind⟩ := Option.map_eq_some_iff.1 kind.symm
      cases entry with
      | file =>
        cases twin with
        | file => simp only [walk, here, there]
        | folder => cases kind
      | folder =>
        cases twin with
        | file => cases kind
        | folder => simp only [walk, here, there, ih]

theorem isFolder_of_walk {root : Entry} {origin steps place : List String} (some : steps ≠ [])
    (walked : walk root origin steps = .ok place) : root.isFolder = true := by
  obtain ⟨step, steps, rfl⟩ := List.exists_cons_of_ne_nil some
  cases root with
  | folder => rfl
  | file content executable =>
    unfold walk at walked
    split at walked
    next => cases walked
    next => cases walked
    next entries there =>
      cases names : origin.reverse with
      | nil => simp [names, Entry.at?] at there
      | cons name names => simp [names, Entry.at?, Entry.child?] at there

theorem isFolder_of_locate {store : FileStore} {path : String} {place : List String}
    (located : store.locate path = .ok place) : store.root.isFolder = true := by
  obtain ⟨steps, reached, -, walked, some, -⟩ := walk_of_locate located
  exact isFolder_of_walk some walked

theorem readBytes_eq (store : FileStore) (path : String) :
    store.readBytes path = (store.locate path).bind fun place =>
      match store.root.at? place with
      | none => .error .noEntry
      | some (.file content _) => .ok content
      | some (.folder _) => .error .isFolder := by
  unfold readBytes entry
  cases store.locate path with
  | error => rfl
  | ok place =>
    simp only [bind, Except.bind]
    cases store.root.at? place with
    | none => rfl
    | some entry => cases entry <;> rfl

theorem readBytes_ok {store : FileStore} {path : String} {content : List UInt8}
    (read : store.readBytes path = .ok content) :
    ∃ place executable, store.locate path = .ok place ∧
      store.root.at? place = some (.file content executable) := by
  rw [readBytes_eq] at read
  cases located : store.locate path with
  | error => rw [located] at read; cases read
  | ok place =>
    rw [located] at read
    simp only [Except.bind] at read
    split at read
    next => cases read
    next found =>
      cases read
      exact ⟨place, _, rfl, found⟩
    next => cases read

theorem writeBytes_there {store : FileStore} {path : String} {old : List UInt8}
    (there : store.readBytes path = .ok old) (content : List UInt8) :
    ∃ after, store.writeBytes path content = .ok after ∧ after.readBytes path = .ok content ∧
      ∀ other, after.readBytes other = store.readBytes other ∨
        store.readBytes other = .ok old ∧ after.readBytes other = .ok content := by
  obtain ⟨place, executable, located, found⟩ := readBytes_ok there
  let after : FileStore := { store with root := store.root.put place (some (.file content executable)) }
  have written : store.writeBytes path content = .ok after := by
    simp only [writeBytes, located, found, bind, Except.bind]
    rfl
  have below : place ≠ [] := by
    rintro rfl
    have folder := isFolder_of_locate located
    rw [Option.some.inj found] at folder
    cases folder
  have behind (names : List String) : (names = place ∧ after.root.at? names = some (.file content executable)) ∨
      names ≠ place ∧ (after.root.at? names = store.root.at? names ∨
        ∃ earlier later, store.root.at? names = some (.folder earlier) ∧
          after.root.at? names = some (.folder later)) :=
    Entry.at?_put found below names
  have sameWay (other : String) : after.locate other = store.locate other := by
    have alike : ∀ names, (after.root.at? names).map Entry.isFolder =
        (store.root.at? names).map Entry.isFolder := by
      intro names
      obtain ⟨rfl, new⟩ | ⟨-, same | ⟨_, _, before, new⟩⟩ := behind names
      · rw [new, found]
        rfl
      · rw [same]
      · rw [new, before]
        rfl
    unfold locate
    simp only [walk_congr alike, after]
  refine ⟨after, written, ?itself, ?others⟩
  case itself =>
    obtain ⟨-, new⟩ | ⟨apart, -⟩ := behind place
    · rw [readBytes_eq, sameWay, located]
      simp only [Except.bind, new]
    · exact absurd rfl apart
  case others =>
    intro other
    rw [readBytes_eq, readBytes_eq, sameWay]
    cases reached : store.locate other with
    | error => exact .inl rfl
    | ok names =>
      simp only [Except.bind]
      obtain ⟨rfl, new⟩ | ⟨-, same | ⟨_, _, before, new⟩⟩ := behind names
      · exact .inr ⟨by rw [found], by rw [new]⟩
      · exact .inl (by rw [same])
      · exact .inl (by rw [new, before])

theorem readText_eq (store : FileStore) (path : String) :
    store.readText path = (store.readBytes path).bind fun content =>
      match Text.Utf8.decode? content with
      | some chars => .ok (String.ofList chars)
      | none => .error .invalidText := by
  unfold readText
  cases store.readBytes path with
  | error => rfl
  | ok content =>
    simp only [bind, Except.bind]
    cases Text.Utf8.decode? content <;> rfl

theorem readText_congr {store other : FileStore} {path : String}
    (same : other.readBytes path = store.readBytes path) : other.readText path = store.readText path := by
  rw [readText_eq, readText_eq, same]

theorem readText_encode {store : FileStore} {path text : String}
    (read : store.readBytes path = .ok (Text.Utf8.encode text.toList)) : store.readText path = .ok text := by
  rw [readText_eq, read]
  simp only [Except.bind, Text.Utf8.decode?_encode, String.ofList_toList]

theorem writeText_there {store : FileStore} {path old : String} (there : store.readText path = .ok old)
    (text : String) :
    ∃ after, store.writeText path text = .ok after ∧ after.readText path = .ok text ∧
      ∀ other, after.readText other = store.readText other ∨
        store.readText other = .ok old ∧ after.readText other = .ok text := by
  rw [readText_eq] at there
  cases held : store.readBytes path with
  | error => rw [held] at there; cases there
  | ok content =>
    obtain ⟨after, written, itself, others⟩ := writeBytes_there held (Text.Utf8.encode text.toList)
    refine ⟨after, written, readText_encode itself, ?_⟩
    intro other
    obtain same | ⟨before, new⟩ := others other
    · exact .inl (readText_congr same)
    · rw [held] at there
      rw [readText_eq store other, before]
      exact .inr ⟨there, readText_encode new⟩

end FileStore

end GrammarFlow
