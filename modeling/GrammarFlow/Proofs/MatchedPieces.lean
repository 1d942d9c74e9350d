import GrammarFlow.Pattern.Match

/-! What a match has matched. Anchors, the order of a choice and greed only say which of several matches is meant;
whatever the pattern prefers, a match is a piece of the text that is built as the pattern says. -/

namespace GrammarFlow

namespace Pattern

/-- The pieces of a text that a pattern can match from an offset on, with what its groups capture there. -/
inductive Reads : Pattern → Nat → List Char → List Capture → Prop
  | empty {offset} : Reads .empty offset [] []
  | one {set c offset} (holds : set.holds c = true) : Reads (.one set) offset [c] []
  | anchor {kind offset} : Reads (.anchor kind) offset [] []
  | seq {first second offset piece more gained later} (here : Reads first offset piece gained)
      (behind : Reads second (offset + piece.length) more later) :
      Reads (.seq first second) offset (piece ++ more) (later ++ gained)
  | first {first second offset piece gained} (here : Reads first offset piece gained) :
      Reads (.choice first second) offset piece gained
  | second {first second offset piece gained} (here : Reads second offset piece gained) :
      Reads (.choice first second) offset piece gained
  | plus {greedy body offset piece more gained later} (here : Reads body offset piece gained)
      (behind : Reads (star greedy body) (offset + piece.length) more later) :
      Reads (.plus greedy body) offset (piece ++ more) (later ++ gained)
  | skip {greedy body offset} : Reads (.optional greedy body) offset [] []
  | taken {greedy body offset piece gained} (here : Reads body offset piece gained) :
      Reads (.optional greedy body) offset piece gained
  | group {name body offset piece gained} (here : Reads body offset piece gained) :
      Reads (.group name body) offset piece (⟨name, offset, piece⟩ :: gained)

def groups : Pattern → List String
  | .empty | .one _ | .anchor _ => []
  | .seq first second | .choice first second => first.groups ++ second.groups
  | .plus _ body | .optional _ body => body.groups
  | .group name body => name :: body.groups

def Only (admits : Char → Prop) : Pattern → Prop
  | .empty | .anchor _ => True
  | .one set => ∀ c, set.holds c = true → admits c
  | .seq first second | .choice first second => first.Only admits ∧ second.Only admits
  | .plus _ body | .optional _ body | .group _ body => body.Only admits

section Reads
variable {pattern : Pattern} {offset : Nat} {piece : List Char} {gained : List Capture}

theorem Reads.captured (reads : pattern.Reads offset piece gained) :
    ∀ capture ∈ gained, capture.name ∈ pattern.groups := by
  induction reads with
  | empty | one | anchor | skip => simp
  | seq _ _ ihHere ihBehind =>
    intro capture member
    rcases List.mem_append.mp member with member | member
    · exact List.mem_append_right _ (ihBehind capture member)
    · exact List.mem_append_left _ (ihHere capture member)
  | first _ ih => exact fun capture member => List.mem_append_left _ (ih capture member)
  | second _ ih => exact fun capture member => List.mem_append_right _ (ih capture member)
  | plus _ _ ihHere ihBehind =>
    intro capture member
    rcases List.mem_append.mp member with member | member
    · exact ihBehind capture member
    · exact ihHere capture member
  | taken _ ih => exact ih
  | group _ ih =>
    intro capture member
    rcases List.mem_cons.mp member with rfl | member
    · exact List.mem_cons_self
    · exact List.mem_cons_of_mem _ (ih capture member)

theorem Reads.captures_nothing (reads : pattern.Reads offset piece gained) (none : pattern.groups = []) :
    gained = [] := by
  apply List.eq_nil_iff_forall_not_mem.mpr
  intro capture member
  have := reads.captured capture member
  rw [none] at this
  cases this

theorem Reads.sequence_cons {first : Pattern} {others : List Pattern}
    (reads : (sequence (first :: others)).Reads offset piece gained) :
    ∃ here behind later earlier, piece = here ++ behind ∧ gained = later ++ earlier ∧
      first.Reads offset here earlier ∧ (sequence others).Reads (offset + here.length) behind later := by
  cases others with
  | nil => exact ⟨piece, [], [], gained, (List.append_nil piece).symm, rfl, reads, .empty⟩
  | cons second others =>
    cases reads with
    | seq here behind => exact ⟨_, _, _, _, rfl, rfl, here, behind⟩

theorem Reads.characters {admits : Char → Prop} (reads : pattern.Reads offset piece gained)
    (only : pattern.Only admits) : ∀ c ∈ piece, admits c := by
  induction reads with
  | empty | anchor | skip => simp
  | one holds =>
    intro c member
    cases List.mem_singleton.mp member
    exact only _ holds
  | seq _ _ ihHere ihBehind => exact List.forall_mem_append.mpr ⟨ihHere only.1, ihBehind only.2⟩
  | first _ ih => exact ih only.1
  | second _ ih => exact ih only.2
  | plus _ _ ihHere ihBehind => exact List.forall_mem_append.mpr ⟨ihHere only, ihBehind only⟩
  | taken _ ih => exact ih only
  | group _ ih => exact ih only

end Reads

end Pattern

structure Cursor.Passes (cursor : Cursor) (piece : List Char) (reached : Cursor) : Prop where
  rest : cursor.rest = piece ++ reached.rest
  offset : reached.offset = cursor.offset + piece.length

namespace Cursor.Passes
variable {cursor middle reached : Cursor} {piece more : List Char}

theorem refl (cursor : Cursor) : cursor.Passes [] cursor := ⟨rfl, rfl⟩

theorem trans (here : cursor.Passes piece middle) (behind : middle.Passes more reached) :
    cursor.Passes (piece ++ more) reached := by
  constructor
  · rw [here.rest, behind.rest, List.append_assoc]
  · rw [behind.offset, here.offset, List.length_append, Nat.add_assoc]

theorem next {c : Char} (next : cursor.next? = some (c, reached)) : cursor.Passes [c] reached := by
  obtain ⟨offset, before, rest⟩ := cursor
  cases rest with
  | nil => cases next
  | cons d rest =>
    cases next
    exact ⟨rfl, rfl⟩

end Cursor.Passes

namespace Pattern
variable {α : Type} {next : Next α} {cursor : Cursor} {captures : List Capture} {result : α}

def Completes (pattern : Pattern) (cursor : Cursor) (captures : List Capture) (next : Next α) (result : α) : Prop :=
  ∃ piece gained reached, cursor.Passes piece reached ∧ pattern.Reads cursor.offset piece gained ∧
    next reached (gained ++ captures) = some result

theorem either_of_preferred {greedy : Bool} {more done : Option α}
    (found : (if greedy then more.or done else done.or more) = some result) :
    more = some result ∨ done = some result := by
  cases greedy with
  | true => exact (Option.or_eq_some_iff.mp found).imp_right And.right
  | false => exact ((Option.or_eq_some_iff.mp found).imp_right And.right).symm

theorem Completes.skip {body : Pattern} {greedy : Bool} (found : next cursor captures = some result) :
    (optional greedy body).Completes cursor captures next result :=
  ⟨[], [], cursor, .refl cursor, .skip, found⟩

theorem rounds_completes {body : Pattern} {greedy : Bool}
    (sound : ∀ {cursor captures} {next : Next α} {result}, body.run cursor captures next = some result →
      body.Completes cursor captures next result) {fuel : Nat}
    (found : rounds (fun cursor captures next => body.run cursor captures next) greedy next fuel cursor captures =
      some result) : (star greedy body).Completes cursor captures next result := by
  induction fuel generalizing cursor captures with
  | zero => exact .skip found
  | succ fuel ih =>
    rw [rounds] at found
    rcases either_of_preferred found with found | found
    · obtain ⟨piece, gained, middle, here, reads, found⟩ := sound found
      dsimp only at found
      split at found
      · cases found
      obtain ⟨more, later, reached, behind, readsMore, found⟩ := ih found
      rw [here.offset] at readsMore
      rw [← List.append_assoc] at found
      exact ⟨piece ++ more, later ++ gained, reached, here.trans behind, .taken (.plus reads readsMore), found⟩
    · exact .skip found

theorem run_completes {pattern : Pattern} (found : pattern.run cursor captures next = some result) :
    pattern.Completes cursor captures next result := by
  induction pattern generalizing cursor captures next result with
  | empty => exact ⟨[], [], cursor, .refl cursor, .empty, found⟩
  | one set =>
    rw [run] at found
    split at found
    next => cases found
    next c after next =>
      split at found
      next holds => exact ⟨[c], [], after, .next next, .one holds, found⟩
      next => cases found
  | anchor kind =>
    rw [run] at found
    split at found
    · exact ⟨[], [], cursor, .refl cursor, .anchor, found⟩
    · cases found
  | seq first second ihFirst ihSecond =>
    obtain ⟨piece, gained, middle, here, reads, found⟩ := ihFirst found
    obtain ⟨more, later, reached, behind, readsMore, found⟩ := ihSecond found
    rw [here.offset] at readsMore
    rw [← List.append_assoc] at found
    exact ⟨piece ++ more, later ++ gained, reached, here.trans behind, .seq reads readsMore, found⟩
  | choice first second ihFirst ihSecond =>
    rcases Option.or_eq_some_iff.mp found with found | ⟨-, found⟩
    · obtain ⟨piece, gained, reached, passes, reads, found⟩ := ihFirst found
      exact ⟨piece, gained, reached, passes, .first reads, found⟩
    · obtain ⟨piece, gained, reached, passes, reads, found⟩ := ihSecond found
      exact ⟨piece, gained, reached, passes, .second reads, found⟩
  | plus greedy body ih =>
    obtain ⟨piece, gained, middle, here, reads, found⟩ := ih found
    dsimp only at found
    split at found
    · have reads' : (plus greedy body).Reads cursor.offset (piece ++ []) ([] ++ gained) := .plus reads .skip
      rw [List.append_nil, List.nil_append] at reads'
      exact ⟨piece, gained, middle, here, reads', found⟩
    · obtain ⟨more, later, reached, behind, readsMore, found⟩ := rounds_completes ih found
      rw [here.offset] at readsMore
      rw [← List.append_assoc] at found
      exact ⟨piece ++ more, later ++ gained, reached, here.trans behind, .plus reads readsMore, found⟩
  | optional greedy body ih =>
    rcases either_of_preferred found with found | found
    · obtain ⟨piece, gained, reached, passes, reads, found⟩ := ih found
      exact ⟨piece, gained, reached, passes, .taken reads, found⟩
    · exact .skip found
  | group name body ih =>
    obtain ⟨piece, gained, reached, passes, reads, found⟩ := ih found
    have text : cursor.rest.take (reached.offset - cursor.offset) = piece := by
      rw [passes.rest, passes.offset, Nat.add_sub_cancel_left, List.take_left]
    dsimp only at found
    rw [text] at found
    exact ⟨piece, _, reached, passes, .group reads, found⟩

/-- A match in a text that begins at an offset: what precedes it, what it has read and what follows. -/
def Finds (pattern : Pattern) (offset : Nat) (text : List Char) (found : Match) : Prop :=
  ∃ front piece, text = front ++ (piece ++ found.stop.rest) ∧ found.start = offset + front.length ∧
    found.stop.offset = found.start + piece.length ∧ pattern.Reads found.start piece found.captures

theorem Finds.behind {pattern : Pattern} {cursor reached : Cursor} {passed : List Char} {found : Match}
    (passes : cursor.Passes passed reached) (finds : pattern.Finds reached.offset reached.rest found) :
    pattern.Finds cursor.offset cursor.rest found := by
  obtain ⟨front, piece, rest, start, stop, reads⟩ := finds
  refine ⟨passed ++ front, piece, ?_, ?_, stop, reads⟩
  · rw [passes.rest, rest, List.append_assoc]
  · rw [start, passes.offset, List.length_append, Nat.add_assoc]

theorem matchAt_finds {pattern : Pattern} {found : Match} (there : pattern.matchAt cursor = some found) :
    pattern.Finds cursor.offset cursor.rest found := by
  obtain ⟨piece, gained, reached, passes, reads, found⟩ := run_completes there
  rw [List.append_nil] at found
  cases found
  exact ⟨[], piece, passes.rest, rfl, passes.offset, reads⟩

theorem findFrom_finds {pattern : Pattern} {offset : Nat} {before : Option Char} {text : List Char} {found : Match}
    (there : pattern.findFrom offset before text = some found) : pattern.Finds offset text found := by
  induction text generalizing offset before with
  | nil => exact matchAt_finds there
  | cons c rest ih =>
    rcases Option.or_eq_some_iff.mp there with there | ⟨-, there⟩
    · exact matchAt_finds there
    · have passes : Cursor.Passes ⟨offset, before, c :: rest⟩ [c] ⟨offset + 1, some c, rest⟩ := .next rfl
      exact .behind passes (ih there)

theorem findAllFrom_finds {pattern : Pattern} {fuel : Nat} {found : Match}
    (there : found ∈ pattern.findAllFrom fuel cursor) : pattern.Finds cursor.offset cursor.rest found := by
  induction fuel generalizing cursor with
  | zero => cases there
  | succ fuel ih =>
    rw [findAllFrom] at there
    cases first : pattern.findFrom cursor.offset cursor.before cursor.rest with
    | none =>
      rw [first] at there
      cases there
    | some earlier =>
      rw [first] at there
      obtain ⟨front, piece, rest, start, stop, -⟩ := findFrom_finds first
      have passes : cursor.Passes (front ++ piece) earlier.stop := by
        constructor
        · rw [rest, List.append_assoc]
        · rw [stop, start, List.length_append, Nat.add_assoc]
      dsimp only at there
      split at there
      next =>
        cases List.mem_singleton.mp there
        exact findFrom_finds first
      next later here =>
        rcases List.mem_cons.mp there with rfl | there
        · exact findFrom_finds first
        split at here
        next =>
          cases here
          exact .behind passes (ih there)
        next =>
          obtain ⟨⟨c, after⟩, next, rfl⟩ := Option.map_eq_some_iff.mp here
          exact .behind (passes.trans (.next next)) (ih there)

theorem findAll_finds {pattern : Pattern} {text : List Char} {found : Match}
    (there : found ∈ pattern.findAll text) : pattern.Finds 0 text found := findAllFrom_finds there

end Pattern

end GrammarFlow
