import GrammarFlow.Pattern.Match

/-! Rules for matching. A pattern takes a piece of a text if every match that can be completed behind
the piece is the match that the pattern prefers. There is a rule for each way of building patterns;
from them one reads off what the pattern of a whole line captures. -/

namespace GrammarFlow

def Cursor.between (done rest : List Char) : Cursor := ⟨done.length, done.getLast?, rest⟩

theorem Cursor.next?_between_cons (done rest : List Char) (c : Char) :
    (between done (c :: rest)).next? = some (c, between (done ++ [c]) rest) := by
  simp [between, next?]

theorem CharSet.holds_single (a c : Char) : (single a).holds c = true ↔ c = a := by
  simp only [single, holds, Bool.and_eq_true, decide_eq_true_eq]
  constructor
  · intro ⟨low, high⟩
    exact Char.le_antisymm high low
  · rintro rfl
    exact ⟨Char.le_refl c, Char.le_refl c⟩

theorem CharSet.holds_complement_single (a c : Char) :
    (complement (single a)).holds c = true ↔ c ≠ a := by
  rw [Ne, ← holds_single a c, holds, Bool.not_eq_true', Bool.not_eq_true]

theorem CharSet.holds_notLineFeed (c : Char) : notLineFeed.holds c = true ↔ c ≠ '\n' :=
  holds_complement_single '\n' c

namespace Pattern

/-- Behind `done` and in front of `rest`, the pattern prefers to match `piece`. -/
structure Takes (pattern : Pattern) (done piece rest : List Char) (gained : List Capture) : Prop where
  run : ∀ {α : Type} (captures : List Capture) (next : Next α),
    (next (.between (done ++ piece) rest) (gained ++ captures)).isSome →
      pattern.run (.between done (piece ++ rest)) captures next =
        next (.between (done ++ piece) rest) (gained ++ captures)

structure Refuses (pattern : Pattern) (done rest : List Char) : Prop where
  run : ∀ {α : Type} (captures : List Capture) (next : Next α),
    pattern.run (.between done rest) captures next = none

theorem find?_of_takes {pattern : Pattern} {text : List Char} {gained : List Capture}
    (whole : pattern.Takes [] text [] gained) :
    pattern.find? text = some ⟨0, .between text [], gained⟩ := by
  have here : pattern.matchAt ⟨0, none, text⟩ = some ⟨0, .between text [], gained⟩ := by
    have := whole.run [] (fun stop captures => some (Match.mk 0 stop captures)) rfl
    rw [List.append_nil, List.append_nil] at this
    exact this
  cases text with
  | nil => exact here
  | cons c rest => simp only [find?, findFrom, here, Option.some_or]

section Rules
variable {done piece more rest : List Char} {gained later : List Capture}

theorem Takes.anchor {kind : Anchor} (holds : kind.holds done.getLast? rest.head? = true) :
    (Pattern.anchor kind).Takes done [] rest [] := by
  constructor
  intro α captures next _
  simp only [Cursor.between, List.nil_append, List.append_nil, Pattern.run, holds, if_true]

theorem Takes.one {set : CharSet} {c : Char} (holds : set.holds c = true) :
    (Pattern.one set).Takes done [c] rest [] := by
  constructor
  intro α captures next _
  simp only [List.singleton_append, Pattern.run, Cursor.next?_between_cons, holds, if_true, List.nil_append]

theorem Refuses.one {set : CharSet} (other : ∀ c ∈ rest.head?, set.holds c = false) :
    (Pattern.one set).Refuses done rest := by
  constructor
  intro α captures next
  cases rest with
  | nil => rfl
  | cons c rest => simp [Pattern.run, Cursor.next?_between_cons, other c rfl]

theorem run_sequence_cons {α : Type} (first : Pattern) (others : List Pattern) (cursor : Cursor)
    (captures : List Capture) (next : Next α) :
    (sequence (first :: others)).run cursor captures next =
      first.run cursor captures fun cursor captures => (sequence others).run cursor captures next := by
  cases others with
  | nil => rfl
  | cons second others => rfl

theorem Takes.nil : (sequence []).Takes done [] rest [] := by
  constructor
  intro α captures next _
  simp only [sequence, Pattern.run, List.nil_append, List.append_nil]

theorem Takes.cons {first : Pattern} {others : List Pattern}
    (here : first.Takes done piece (more ++ rest) gained)
    (behind : (sequence others).Takes (done ++ piece) more rest later) :
    (sequence (first :: others)).Takes done (piece ++ more) rest (later ++ gained) := by
  constructor
  intro α captures next completed
  rw [← List.append_assoc, List.append_assoc later] at completed
  have finish := behind.run (gained ++ captures) next completed
  have enter := here.run captures (fun cursor captures => (sequence others).run cursor captures next)
    (by rw [finish]; exact completed)
  rw [run_sequence_cons, List.append_assoc, enter, finish, ← List.append_assoc done, List.append_assoc later]

theorem Refuses.cons {first : Pattern} {others : List Pattern} (here : first.Refuses done rest) :
    (sequence (first :: others)).Refuses done rest := by
  constructor
  intro α captures next
  rw [run_sequence_cons, here.run]

private theorem takes_literal (literal : List Char) :
    ∀ done, (sequence (literal.map fun c => .one (.single c))).Takes done literal rest [] := by
  induction literal with
  | nil => exact fun done => Takes.nil
  | cons c literal ih =>
    intro done
    have first : (Pattern.one (.single c)).Takes done [c] (literal ++ rest) [] :=
      Takes.one ((CharSet.holds_single c c).mpr rfl)
    exact first.cons (ih (done ++ [c]))

theorem Takes.text (literal : String) : (Pattern.text literal).Takes done literal.toList rest [] :=
  takes_literal literal.toList done

theorem Refuses.text {literal : String} {c : Char} {others : List Char}
    (begins : literal.toList = c :: others) (other : rest.head? ≠ some c) :
    (Pattern.text literal).Refuses done rest := by
  rw [Pattern.text, begins]
  apply Refuses.cons
  apply Refuses.one
  intro d first
  apply Bool.eq_false_iff.mpr
  intro holds
  rw [(CharSet.holds_single c d).mp holds] at first
  exact other first

theorem Takes.group {name : String} {body : Pattern} (inside : body.Takes done piece rest gained) :
    (Pattern.group name body).Takes done piece rest (⟨name, done.length, piece⟩ :: gained) := by
  constructor
  intro α captures next completed
  have text : (piece ++ rest).take ((done ++ piece).length - done.length) = piece := by simp
  have reached := inside.run captures (fun reached captures =>
    next reached (⟨name, done.length, (piece ++ rest).take (reached.offset - done.length)⟩ :: captures))
  simp only [Cursor.between, text, List.cons_append, Pattern.run] at reached completed ⊢
  exact reached completed

theorem Takes.optional {body : Pattern} (inside : body.Takes done piece rest gained) :
    (Pattern.optional true body).Takes done piece rest gained := by
  constructor
  intro α captures next completed
  simp only [Pattern.run, if_true, inside.run captures next completed]
  exact Option.or_of_isSome completed

end Rules

section Repetition
variable {α : Type} {set : CharSet} (next : Next α) (captures : List Capture)

private theorem offset_step (done before rest : List Char) (c : Char) :
    (Cursor.between (done ++ [c]) rest).offset ≠ (Cursor.between done before).offset := by
  simp [Cursor.between]

private theorem run_one_cons {c : Char} (holds : set.holds c = true) (done rest : List Char) :
    (one set).run (.between done (c :: rest)) captures next = next (.between (done ++ [c]) rest) captures := by
  simp only [run, Cursor.next?_between_cons, holds, if_true]

private theorem rounds_greedy (piece : List Char) {rest : List Char}
    (inside : ∀ c ∈ piece, set.holds c = true) (outside : ∀ c ∈ rest.head?, set.holds c = false) :
    ∀ done fuel, piece.length ≤ fuel → (next (.between (done ++ piece) rest) captures).isSome →
      rounds (fun cursor captures next => (one set).run cursor captures next) true next fuel
        (.between done (piece ++ rest)) captures = next (.between (done ++ piece) rest) captures := by
  induction piece with
  | nil =>
    intro done fuel _ completed
    cases fuel with
    | zero => simp only [rounds, List.nil_append, List.append_nil]
    | succ fuel =>
      simp only [rounds, if_true, List.nil_append, List.append_nil, (Refuses.one outside).run,
        Option.none_or]
  | cons c piece ih =>
    intro done fuel enough completed
    cases fuel with
    | zero => simp at enough
    | succ fuel =>
      have more := ih (fun d member => inside d (by simp [member])) (done ++ [c]) fuel (by simpa using enough)
      rw [List.append_assoc, List.singleton_append] at more
      simp only [rounds, if_true, List.cons_append, run_one_cons _ _ (inside c (by simp)),
        if_neg (offset_step done _ _ c), more completed]
      exact Option.or_of_isSome completed

private theorem rounds_lazy (piece : List Char) {rest : List Char}
    (inside : ∀ c ∈ piece, set.holds c = true) :
    ∀ done fuel, piece.length ≤ fuel → (next (.between (done ++ piece) rest) captures).isSome →
      (∀ front back, piece = front ++ back → back ≠ [] →
        next (.between (done ++ front) (back ++ rest)) captures = none) →
      rounds (fun cursor captures next => (one set).run cursor captures next) false next fuel
        (.between done (piece ++ rest)) captures = next (.between (done ++ piece) rest) captures := by
  induction piece with
  | nil =>
    intro done fuel _ completed _
    rw [List.append_nil] at completed
    cases fuel with
    | zero => simp only [rounds, List.nil_append, List.append_nil]
    | succ fuel =>
      simp only [rounds, Bool.false_eq_true, if_false, List.nil_append, List.append_nil]
      exact Option.or_of_isSome completed
  | cons c piece ih =>
    intro done fuel enough completed early
    cases fuel with
    | zero => simp at enough
    | succ fuel =>
      have here : next (.between done (c :: (piece ++ rest))) captures = none := by
        simpa using early [] (c :: piece) rfl (by simp)
      have more := ih (fun d member => inside d (by simp [member])) (done ++ [c]) fuel (by simpa using enough)
      simp only [List.append_assoc, List.singleton_append] at more
      simp only [rounds, Bool.false_eq_true, if_false, List.cons_append, here, Option.none_or,
        run_one_cons _ _ (inside c (by simp)), if_neg (offset_step done _ _ c)]
      apply more completed
      intro front back split nonempty
      exact early (c :: front) back (by rw [split, List.cons_append]) nonempty

/-- A greedy repetition takes all the characters of its set that come in a row. -/
theorem Takes.greedy {done piece rest : List Char} (nonempty : piece ≠ [])
    (inside : ∀ c ∈ piece, set.holds c = true) (outside : ∀ c ∈ rest.head?, set.holds c = false) :
    (plus true (.one set)).Takes done piece rest [] := by
  constructor
  intro α captures next completed
  obtain ⟨c, others, rfl⟩ := List.exists_cons_of_ne_nil nonempty
  have more := rounds_greedy next captures others (fun d member => inside d (by simp [member])) outside
    (done ++ [c]) (others ++ rest).length (by simp)
  rw [List.append_assoc, List.singleton_append] at more
  rw [Pattern.run, List.cons_append, run_one_cons _ _ (inside c (by simp)), if_neg (offset_step done _ _ c)]
  exact more completed

private theorem run_lazy {done piece rest : List Char} (nonempty : piece ≠ [])
    (inside : ∀ c ∈ piece, set.holds c = true)
    (completed : (next (.between (done ++ piece) rest) captures).isSome)
    (early : ∀ front back, piece = front ++ back → front ≠ [] → back ≠ [] →
      next (.between (done ++ front) (back ++ rest)) captures = none) :
    (plus false (.one set)).run (.between done (piece ++ rest)) captures next =
      next (.between (done ++ piece) rest) captures := by
  obtain ⟨c, others, rfl⟩ := List.exists_cons_of_ne_nil nonempty
  have same : done ++ [c] ++ others = done ++ c :: others := by simp
  rw [run, List.cons_append, run_one_cons _ _ (inside c (by simp)), if_neg (offset_step done _ _ c), ← same]
  rw [← same] at completed
  refine rounds_lazy next captures others (fun d member => inside d (by simp [member])) (done ++ [c])
    (others ++ rest).length (by simp) completed ?_
  intro front back split behind
  rw [List.append_assoc]
  exact early (c :: front) back (by rw [split, List.cons_append]) (List.cons_ne_nil c front) behind

/-- A lazy repetition goes on until what follows it can be matched. -/
theorem Takes.lazy {name : String} {others : List Pattern} {done piece more rest : List Char}
    {gained : List Capture} (nonempty : piece ≠ []) (inside : ∀ c ∈ piece, set.holds c = true)
    (early : ∀ front back, piece = front ++ back → front ≠ [] → back ≠ [] →
      (sequence others).Refuses (done ++ front) (back ++ (more ++ rest)))
    (behind : (sequence others).Takes (done ++ piece) more rest gained) :
    (sequence (.group name (plus false (.one set)) :: others)).Takes done (piece ++ more) rest
      (gained ++ [⟨name, done.length, piece⟩]) := by
  constructor
  intro α captures next completed
  let close : Next α := fun reached captures =>
    let text := (piece ++ (more ++ rest)).take (reached.offset - done.length)
    (sequence others).run reached (⟨name, done.length, text⟩ :: captures) next
  rw [← List.append_assoc, List.append_assoc gained] at completed
  have text : (piece ++ (more ++ rest)).take ((done ++ piece).length - done.length) = piece := by simp
  have finish : close (.between (done ++ piece) (more ++ rest)) captures =
      next (.between (done ++ piece ++ more) rest) (gained ++ ([⟨name, done.length, piece⟩] ++ captures)) := by
    rw [← behind.run _ next completed]
    simp only [close, Cursor.between, text, List.singleton_append]
  rw [run_sequence_cons, List.append_assoc piece, ← List.append_assoc done, List.append_assoc gained, ← finish]
  refine run_lazy close captures nonempty inside (by rw [finish]; exact completed) ?_
  intro front back split before following
  exact (early front back split before following).run _ next

end Repetition

end Pattern

end GrammarFlow
