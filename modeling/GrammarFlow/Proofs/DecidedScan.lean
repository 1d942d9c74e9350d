import GrammarFlow.Proofs.ScanSteps

/-! Where something ends in a grammar's text is decided by the text up to there and the character behind it. What
follows later makes no difference. -/

namespace GrammarFlow.Scan

/-- Where this length ends within the front of a text, it is the same whatever follows behind the next character. -/
def Decided (length : List Char → Nat) : Prop :=
  ∀ (front : List Char) (first : Char) (tail other : List Char), length (front ++ first :: tail) ≤ front.length →
    length (front ++ first :: other) = length (front ++ first :: tail)

/-- What is found at a character is the same whatever follows behind the front of the text and the next character,
unless it goes on behind the front. -/
def DecidedAt {α : Type} (length : α → Nat) (find? : Char → List Char → Option α) : Prop :=
  ∀ (c : Char) (front : List Char) (first : Char) (tail other : List Char),
    (∀ found ∈ find? c (front ++ first :: tail), length found ≤ front.length + 1) →
      find? c (front ++ first :: other) = find? c (front ++ first :: tail)

theorem decided_lineComment : Decided lineCommentLength := by
  intro front first tail other within
  induction front with
  | nil =>
    simp [lineCommentLength_cons] at within ⊢
    simp [within]
  | cons c front ih =>
    simp only [List.cons_append, lineCommentLength_cons, List.length_cons] at within ⊢
    split
    · rfl
    next inLine =>
      rw [if_neg inLine] at within
      rw [ih (by omega)]

theorem decided_blockComment : Decided blockCommentLength := by
  intro front first tail other within
  induction front with
  | nil =>
    rw [List.nil_append, blockCommentLength_cons] at within
    split at within <;> simp at within
  | cons c front ih =>
    simp only [List.cons_append, blockCommentLength_cons, List.length_cons] at within ⊢
    have head : (front ++ first :: other).head? = (front ++ first :: tail).head? := by cases front <;> rfl
    rw [head]
    split
    · rfl
    next inComment =>
      rw [if_neg inComment] at within
      rw [ih (by omega)]

theorem decided_quoted (close : Char) : Decided (quotedLength close) := by
  intro front first tail other within
  fun_induction quotedLength close front with
  | case1 => exact absurd within (Nat.not_le_of_lt (quotedLength_pos close first tail))
  | case2 c front ih =>
    simp only [List.cons_append, quotedLength, List.length_cons, Nat.add_le_add_iff_right] at within ⊢
    rw [ih within]
  | case3 => simp [quotedLength] at within
  | case4 front pair single =>
    have plain := ne_backslash pair single
    simp only [List.cons_append, quotedLength_plain plain, if_true]
  | case5 c front pair single other_ ih =>
    have plain := ne_backslash pair single
    simp only [List.cons_append, quotedLength_plain plain, if_neg other_, List.length_cons,
      Nat.add_le_add_iff_right] at within ⊢
    rw [ih within]

theorem commentLength?_cons (c d : Char) (rest : List Char) : commentLength? (c :: d :: rest) =
    if c = '/' ∧ d = '/' then some (lineCommentLength rest + 2)
    else if c = '/' ∧ d = '*' then some (blockCommentLength rest + 2)
    else none := by
  by_cases line : c = '/' ∧ d = '/'
  · simp [line, commentLength?]
  by_cases block : c = '/' ∧ d = '*'
  · simp [block, commentLength?]
  rw [if_neg line, if_neg block, commentLength?_eq_none]
  · rintro rest same
    cases same
    exact line ⟨rfl, rfl⟩
  · rintro rest same
    cases same
    exact block ⟨rfl, rfl⟩

theorem decidedAt_comment : DecidedAt id fun c rest => commentLength? (c :: rest) := by
  intro c front first tail other within
  cases front with
  | nil =>
    simp only [List.nil_append, commentLength?_cons] at within ⊢
    split
    next => simp_all
    next => split <;> simp_all
  | cons d front =>
    simp only [List.cons_append, commentLength?_cons] at within ⊢
    split
    next line =>
      have within := within _ (if_pos line)
      rw [decided_lineComment front first tail other (by simpa using within)]
    next notLine =>
      rw [if_neg notLine] at within
      split
      next block =>
        have within := within _ (if_pos block)
        rw [decided_blockComment front first tail other (by simpa using within)]
      next => rfl

section Rules
variable {α β : Type} {length : α → Nat} {find? other? : Char → List Char → Option α}

theorem DecidedAt.congr (decided : DecidedAt length other?) (same : ∀ c rest, find? c rest = other? c rest) :
    DecidedAt length find? := by
  intro c front first tail other within
  rw [same] at within
  rw [same, same]
  exact decided c front first tail other within

theorem DecidedAt.none : DecidedAt length fun _ _ => none := fun _ _ _ _ _ _ => rfl

theorem DecidedAt.some {size : Char → List Char → Nat} (found : Nat → α) (decided : ∀ c, Decided (size c))
    (sized : ∀ size, length (found size) = size) : DecidedAt length fun c rest => some (found (size c rest + 1)) := by
  intro c front first tail other within
  have within := within _ rfl
  rw [sized] at within
  dsimp only
  rw [decided c front first tail other (Nat.le_of_succ_le_succ within)]

theorem DecidedAt.ite {opens : Char → Prop} [DecidablePred opens] (decided : DecidedAt length find?)
    (otherwise : DecidedAt length other?) :
    DecidedAt length fun c rest => if opens c then find? c rest else other? c rest := by
  intro c front first tail other within
  by_cases here : opens c
  · simp only [if_pos here] at within ⊢
    exact decided c front first tail other within
  · simp only [if_neg here] at within ⊢
    exact otherwise c front first tail other within

theorem DecidedAt.or (decided : DecidedAt length find?) (otherwise : DecidedAt length other?) :
    DecidedAt length fun c rest => (find? c rest).or (other? c rest) := by
  intro c front first tail other within
  have same : find? c (front ++ first :: other) = find? c (front ++ first :: tail) :=
    decided c front first tail other fun found there =>
      within found (Option.mem_def.mpr (Option.or_eq_some_iff.mpr (.inl there)))
  dsimp only at within ⊢
  rw [same]
  cases here : find? c (front ++ first :: tail) with
  | some => rfl
  | none =>
    rw [here] at within
    rw [Option.none_or, Option.none_or]
    exact otherwise c front first tail other within

theorem DecidedAt.map {found : α → β} {length' : β → Nat} (decided : DecidedAt length find?)
    (same : ∀ x, length' (found x) = length x) : DecidedAt length' fun c rest => (find? c rest).map found := by
  intro c front first tail other within
  dsimp only at within ⊢
  rw [decided c front first tail other fun x there => same x ▸ within (found x) (Option.mem_map_of_mem found there)]

end Rules

theorem decidedAt_skip : DecidedAt id fun c rest => skipLength? (c :: rest) := by
  have quoted : DecidedAt id fun c rest => some (quotedLength c rest + 1) := .some id decided_quoted fun _ => rfl
  exact (decidedAt_comment.or (quoted.ite .none)).congr skipLength?_cons

theorem le_blockLength (depth skip : Nat) (text : List Char) :
    min skip text.length ≤ blockLength depth skip text := by
  induction text generalizing skip with
  | nil => exact Nat.min_le_right _ _
  | cons c rest ih =>
    cases skip with
    | zero => simp
    | succ skip =>
      have := ih skip
      simp only [blockLength, List.length_cons]
      omega

theorem blockLength_pos (depth skip : Nat) (c : Char) (rest : List Char) :
    0 < blockLength depth skip (c :: rest) := by
  cases skip with
  | succ skip => exact Nat.succ_pos _
  | zero =>
    rw [blockLength]
    repeat' split
    all_goals omega

theorem decided_block (depth skip : Nat) : Decided (blockLength depth skip) := by
  intro front first tail other within
  induction front generalizing depth skip with
  | nil => exact absurd within (Nat.not_le_of_lt (blockLength_pos depth skip first tail))
  | cons c front ih =>
    rw [List.cons_append] at within ⊢
    rw [List.cons_append]
    cases skip with
    | succ skip =>
      simp only [blockLength, List.length_cons, Nat.add_le_add_iff_right] at within ⊢
      rw [ih depth skip within]
    | zero =>
      simp only [blockLength, List.length_cons] at within ⊢
      by_cases opens : c = '\x7b'
      · simp only [if_pos opens, Nat.add_le_add_iff_right] at within ⊢
        rw [ih (depth + 1) 0 within]
      by_cases closes : c = '\x7d'
      · simp only [if_neg opens, if_pos closes] at within ⊢
        by_cases last : depth ≤ 1
        · rw [if_pos last, if_pos last]
        · simp only [if_neg last, Nat.add_le_add_iff_right] at within ⊢
          rw [ih (depth - 1) 0 within]
      simp only [if_neg opens, if_neg closes] at within ⊢
      have skipped : skipLength? (c :: (front ++ first :: other)) = skipLength? (c :: (front ++ first :: tail)) := by
        apply decidedAt_skip
        intro length there
        have there : skipLength? (c :: (front ++ first :: tail)) = some length := there
        rw [there] at within
        dsimp only at within
        have inside := le_blockLength depth (length - 1) (front ++ first :: tail)
        have room : (front ++ first :: tail).length = front.length + tail.length + 1 := by simp; omega
        rw [id]
        omega
      rw [skipped]
      cases there : skipLength? (c :: (front ++ first :: tail)) with
      | none =>
        simp only [there, Nat.add_le_add_iff_right] at within ⊢
        rw [ih depth 0 within]
      | some length =>
        simp only [there, Nat.add_le_add_iff_right] at within ⊢
        rw [ih depth (length - 1) within]

theorem decidedAt_construct : DecidedAt Construct.length fun c rest => construct? (c :: rest) := by
  have comment : DecidedAt Construct.length fun c rest => (commentLength? (c :: rest)).map Construct.hidden :=
    decidedAt_comment.map fun _ => rfl
  have quoted (close : Char) : DecidedAt Construct.length fun _ rest => some (.hidden (quotedLength close rest + 1)) :=
    .some Construct.hidden (fun _ => decided_quoted close) fun _ => rfl
  have block : DecidedAt Construct.length fun _ rest => some (.block (blockLength 1 0 rest + 1)) :=
    .some Construct.block (fun _ => decided_block 1 0) fun _ => rfl
  exact (comment.or ((quoted '\'').ite ((quoted ']').ite (block.ite .none)))).congr construct?_cons

theorem decided_construct {front : List Char} {first : Char} {tail : List Char} (nonempty : front ≠ [])
    (within : ∀ found ∈ construct? (front ++ first :: tail), found.length ≤ front.length) (other : List Char) :
    construct? (front ++ first :: other) = construct? (front ++ first :: tail) := by
  obtain ⟨c, front, rfl⟩ := List.exists_cons_of_ne_nil nonempty
  exact decidedAt_construct c front first tail other within

end GrammarFlow.Scan
