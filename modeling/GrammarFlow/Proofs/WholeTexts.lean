import GrammarFlow.Proofs.MatchedPieces
import GrammarFlow.Proofs.PatternMatching

/-! Patterns with an anchor at each end of the text. Such a pattern matches the whole text or nothing, so what its
groups capture is known from the pieces that its parts read. Repetitions of a character set have bounds here, and
what is optional is left out where it cannot be read. -/

namespace GrammarFlow.Pattern

theorem run_sequence_append {α : Type} (parts others : List Pattern) (cursor : Cursor) (captures : List Capture)
    (next : Next α) : (sequence (parts ++ others)).run cursor captures next =
      (sequence parts).run cursor captures fun cursor captures => (sequence others).run cursor captures next := by
  induction parts generalizing cursor captures with
  | nil => rfl
  | cons part parts ih => simp only [List.cons_append, run_sequence_cons, ih]

section Whole
variable {parts : List Pattern} {text : List Char} {found : Match}

theorem findFrom_textStart (offset : Nat) (c : Char) (text : List Char) :
    (sequence (.anchor .textStart :: parts)).findFrom offset (some c) text = none := by
  have never (offset : Nat) (c : Char) (text : List Char) :
      (sequence (.anchor .textStart :: parts)).matchAt ⟨offset, some c, text⟩ = none := by
    rw [matchAt, run_sequence_cons]
    rfl
  induction text generalizing offset c with
  | nil => exact never offset c []
  | cons d text ih => rw [findFrom, never, ih, Option.none_or]

theorem find?_textStart (text : List Char) :
    (sequence (.anchor .textStart :: parts)).find? text =
      (sequence (.anchor .textStart :: parts)).matchAt (.start text) := by
  cases text with
  | nil => rfl
  | cons c text =>
    rw [find?, findFrom, findFrom_textStart, Option.or_none]
    rfl

/-- What is found between the anchors is the whole text. -/
theorem reads_of_find?
    (there : (sequence (.anchor .textStart :: (parts ++ [.anchor .textEnd]))).find? text = some found) :
    (sequence parts).Reads 0 text found.captures := by
  have started : Anchor.holds (Cursor.start text).before (Cursor.start text).rest.head? .textStart = true := rfl
  rw [find?_textStart, matchAt, run_sequence_cons, run, if_pos started, run_sequence_append] at there
  obtain ⟨piece, gained, reached, passes, reads, ended⟩ := run_completes there
  dsimp only [sequence, run] at ended
  split at ended
  next stop =>
    cases ended
    have nothing : reached.rest = [] := by simpa [Anchor.holds] using stop
    have whole := passes.rest
    rw [nothing, List.append_nil] at whole
    rw [List.append_nil, show text = piece from whole]
    exact reads
  next => cases ended

end Whole

theorem upTo_succ (greedy : Bool) (most : Nat) (body : Pattern) : upTo greedy (most + 1) body =
    optional greedy (sequence (body :: if most = 0 then [] else [upTo greedy most body])) := by
  cases most <;> rfl

theorem between_some (greedy : Bool) (least most : Nat) (body : Pattern) : between greedy least (some most) body =
    sequence (List.replicate least body ++ if least < most then [upTo greedy (most - least) body] else []) := by
  cases least <;> rfl

section Takes
variable {done piece more rest : List Char} {gained : List Capture} {set : CharSet}

theorem Refuses.of_reads {pattern : Pattern}
    (never : ∀ piece gained, pattern.Reads done.length piece gained → ¬ piece <+: rest) :
    pattern.Refuses done rest := by
  constructor
  intro α captures next
  cases found : pattern.run (.between done rest) captures next with
  | none => rfl
  | some result =>
    obtain ⟨piece, gained, reached, passes, reads, -⟩ := run_completes found
    exact absurd ⟨reached.rest, passes.rest.symm⟩ (never piece gained reads)

theorem Takes.skip {body : Pattern} (refuses : body.Refuses done rest) :
    (Pattern.optional true body).Takes done [] rest [] := by
  constructor
  intro α captures next _
  simp only [Pattern.run, if_true, List.nil_append, List.append_nil, refuses.run, Option.none_or]

theorem Takes.first {first second : Pattern} (here : first.Takes done piece rest gained) :
    (choice first second).Takes done piece rest gained := by
  constructor
  intro α captures next completed
  simp only [Pattern.run, here.run captures next completed]
  exact Option.or_of_isSome completed

theorem Takes.second {first second : Pattern} (refuses : first.Refuses done (piece ++ rest))
    (here : second.Takes done piece rest gained) : (choice first second).Takes done piece rest gained := by
  constructor
  intro α captures next completed
  simp only [Pattern.run, refuses.run, Option.none_or, here.run captures next completed]

theorem Takes.choices {before behind : List Pattern} {option : Pattern}
    (refused : ∀ other ∈ before, other.Refuses done (piece ++ rest)) (here : option.Takes done piece rest gained) :
    (Pattern.choices (before ++ option :: behind)).Takes done piece rest gained := by
  induction before with
  | nil =>
    cases behind with
    | nil => exact here
    | cons next behind => exact Takes.first here
  | cons other before ih =>
    obtain ⟨refuses, refused⟩ := List.forall_mem_cons.mp refused
    have split : Pattern.choices (other :: before ++ option :: behind) =
        .choice other (Pattern.choices (before ++ option :: behind)) := by
      cases before <;> rfl
    rw [split]
    exact Takes.second refuses (ih refused)

theorem Takes.star (inside : ∀ c ∈ piece, set.holds c = true) (outside : ∀ c ∈ rest.head?, set.holds c = false) :
    (Pattern.star true (.one set)).Takes done piece rest [] := by
  cases piece with
  | nil =>
    refine Takes.skip ⟨fun captures next => ?_⟩
    rw [Pattern.run, (Refuses.one outside).run]
  | cons c piece => exact (Takes.greedy (List.cons_ne_nil c piece) inside outside).optional

theorem Takes.upTo {most : Nat} (few : piece.length ≤ most) (inside : ∀ c ∈ piece, set.holds c = true)
    (outside : ∀ c ∈ rest.head?, set.holds c = false) :
    (Pattern.upTo true most (.one set)).Takes done piece rest [] := by
  induction most generalizing done piece with
  | zero =>
    obtain rfl := List.length_eq_zero_iff.mp (Nat.le_zero.mp few)
    exact Takes.nil
  | succ most ih =>
    rw [upTo_succ]
    cases piece with
    | nil => exact Takes.skip (Refuses.cons (Refuses.one outside))
    | cons c piece =>
      obtain ⟨first, inside⟩ := List.forall_mem_cons.mp inside
      have behind : (sequence (if most = 0 then [] else [Pattern.upTo true most (.one set)])).Takes
          (done ++ [c]) piece rest [] := by
        split
        next zero =>
          obtain rfl : piece = [] := by simpa [zero] using few
          exact Takes.nil
        next => exact ih (by simpa using few) inside
      exact ((Takes.one first).cons behind).optional

theorem Takes.replicate {front : List Char} {others : List Pattern} (inside : ∀ c ∈ front, set.holds c = true)
    (behind : (sequence others).Takes (done ++ front) more rest gained) :
    (sequence (List.replicate front.length (.one set) ++ others)).Takes done (front ++ more) rest gained := by
  induction front generalizing done with
  | nil => simpa using behind
  | cons c front ih =>
    obtain ⟨first, inside⟩ := List.forall_mem_cons.mp inside
    have later : (sequence (List.replicate front.length (.one set) ++ others)).Takes (done ++ [c]) (front ++ more)
        rest gained := ih inside (by simpa using behind)
    rw [List.length_cons, List.replicate_succ]
    simpa using (Takes.one first).cons later

theorem Takes.between {least most : Nat} (enough : least ≤ piece.length) (few : piece.length ≤ most)
    (inside : ∀ c ∈ piece, set.holds c = true) (outside : ∀ c ∈ rest.head?, set.holds c = false) :
    (Pattern.between true least (some most) (.one set)).Takes done piece rest [] := by
  obtain ⟨front, more, rfl, rfl⟩ : ∃ front more, front ++ more = piece ∧ front.length = least :=
    ⟨piece.take least, piece.drop least, List.take_append_drop .., List.length_take_of_le enough⟩
  rw [List.length_append] at few
  rw [List.forall_mem_append] at inside
  rw [between_some]
  refine Takes.replicate inside.1 ?_
  split
  next => exact Takes.upTo (by omega) inside.2 outside
  next full =>
    obtain rfl := List.length_eq_zero_iff.mp (show more.length = 0 by omega)
    exact Takes.nil

end Takes

section Reads
variable {offset least most : Nat} {greedy : Bool} {set : CharSet} {piece : List Char} {gained : List Capture}

theorem Reads.text {literal : String} (reads : (Pattern.text literal).Reads offset piece gained) :
    piece = literal.toList ∧ gained = [] := by
  unfold Pattern.text at reads
  generalize literal.toList = chars at reads ⊢
  induction chars generalizing offset piece gained with
  | nil =>
    cases reads
    exact ⟨rfl, rfl⟩
  | cons c chars ih =>
    obtain ⟨here, behind, later, earlier, rfl, rfl, first, reads⟩ := reads.sequence_cons
    obtain ⟨rfl, rfl⟩ := ih reads
    cases first with
    | one holds => exact ⟨congrArg (· :: _) ((CharSet.holds_single ..).mp holds), rfl⟩

theorem Reads.choices {options : List Pattern} (some : options ≠ [])
    (reads : (Pattern.choices options).Reads offset piece gained) :
    ∃ option ∈ options, option.Reads offset piece gained := by
  induction options with
  | nil => exact absurd rfl some
  | cons option options ih =>
    cases options with
    | nil => exact ⟨option, List.mem_cons_self, reads⟩
    | cons next options =>
      cases reads with
      | first here => exact ⟨option, List.mem_cons_self, here⟩
      | second here =>
        obtain ⟨taken, member, reads⟩ := ih (List.cons_ne_nil _ _) here
        exact ⟨taken, List.mem_cons_of_mem _ member, reads⟩

theorem Reads.upTo (reads : (Pattern.upTo greedy most (.one set)).Reads offset piece gained) :
    piece.length ≤ most ∧ (∀ c ∈ piece, set.holds c = true) ∧ gained = [] := by
  induction most generalizing offset piece gained with
  | zero =>
    cases reads
    exact ⟨Nat.le_refl 0, by simp, rfl⟩
  | succ most ih =>
    rw [upTo_succ] at reads
    cases reads with
    | skip => exact ⟨Nat.zero_le _, by simp, rfl⟩
    | taken reads =>
      obtain ⟨here, behind, later, earlier, rfl, rfl, first, reads⟩ := reads.sequence_cons
      have behind : behind.length ≤ most ∧ (∀ c ∈ behind, set.holds c = true) ∧ later = [] := by
        split at reads
        next =>
          cases reads
          exact ⟨Nat.zero_le _, by simp, rfl⟩
        next => exact ih reads
      obtain ⟨few, inside, rfl⟩ := behind
      cases first with
      | one holds => exact ⟨Nat.succ_le_succ few, List.forall_mem_cons.mpr ⟨holds, inside⟩, rfl⟩

theorem Reads.replicate {count : Nat} {others : List Pattern}
    (reads : (sequence (List.replicate count (.one set) ++ others)).Reads offset piece gained) :
    ∃ front more, piece = front ++ more ∧ front.length = count ∧ (∀ c ∈ front, set.holds c = true) ∧
      (sequence others).Reads (offset + front.length) more gained := by
  induction count generalizing offset piece gained with
  | zero => exact ⟨[], piece, rfl, rfl, by simp, reads⟩
  | succ count ih =>
    rw [List.replicate_succ, List.cons_append] at reads
    obtain ⟨here, behind, later, earlier, rfl, rfl, first, reads⟩ := reads.sequence_cons
    obtain ⟨front, more, rfl, rfl, inside, rest⟩ := ih reads
    cases first with
    | @one _ c _ holds =>
      refine ⟨c :: front, more, rfl, rfl, List.forall_mem_cons.mpr ⟨holds, inside⟩, ?_⟩
      simpa [Nat.add_assoc, Nat.add_comm 1] using rest

theorem Reads.between (bounds : least ≤ most)
    (reads : (Pattern.between greedy least (some most) (.one set)).Reads offset piece gained) :
    least ≤ piece.length ∧ piece.length ≤ most ∧ (∀ c ∈ piece, set.holds c = true) ∧ gained = [] := by
  rw [between_some] at reads
  obtain ⟨front, more, rfl, rfl, inside, reads⟩ := reads.replicate
  have behind : more.length ≤ most - front.length ∧ (∀ c ∈ more, set.holds c = true) ∧ gained = [] := by
    split at reads
    next => exact reads.upTo
    next =>
      cases reads
      exact ⟨Nat.zero_le _, by simp, rfl⟩
  obtain ⟨few, also, rfl⟩ := behind
  rw [List.length_append]
  exact ⟨by omega, by omega, List.forall_mem_append.mpr ⟨inside, also⟩, rfl⟩

end Reads

end GrammarFlow.Pattern
