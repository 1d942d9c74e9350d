import GrammarFlow.Grammar.Scan

/-! How the first look moves through a grammar's text. A construct is passed as a whole: it is blanked out, a block
may be noted as an action, and the look goes on behind it. Any other character is passed by itself. -/

namespace GrammarFlow.Scan

section Lengths

theorem lineCommentLength_cons (c : Char) (rest : List Char) :
    lineCommentLength (c :: rest) = if c = '\n' then 0 else lineCommentLength rest + 1 := by
  by_cases ends : c = '\n' <;> simp [lineCommentLength, ends]

theorem blockCommentLength_cons (c : Char) (rest : List Char) : blockCommentLength (c :: rest) =
    if c = '*' ∧ rest.head? = some '/' then 2 else blockCommentLength rest + 1 := by
  by_cases closes : c = '*' ∧ rest.head? = some '/'
  · obtain ⟨rfl, behind⟩ := closes
    obtain ⟨tail, rfl⟩ := List.head?_eq_some_iff.mp behind
    simp [blockCommentLength]
  · rw [if_neg closes, blockCommentLength]
    rintro tail rfl rfl
    exact closes ⟨rfl, rfl⟩

theorem quotedLength_plain {close c : Char} (plain : c ≠ '\\') (rest : List Char) :
    quotedLength close (c :: rest) = if c = close then 1 else quotedLength close rest + 1 := by
  rw [quotedLength]
  · rintro d later rfl rfl
    exact plain rfl
  · rintro rfl rfl
    exact plain rfl

theorem ne_backslash {c : Char} {rest : List Char} (pair : ∀ d later, c = '\\' → rest = d :: later → False)
    (single : c = '\\' → rest = [] → False) : c ≠ '\\' := by
  intro backslash
  cases rest with
  | nil => exact single backslash rfl
  | cons d later => exact pair d later backslash rfl

theorem quotedLength_pos (close c : Char) (rest : List Char) : 0 < quotedLength close (c :: rest) := by
  by_cases backslash : c = '\\'
  · subst backslash
    cases rest <;> simp [quotedLength]
  · rw [quotedLength_plain backslash]
    split <;> omega

theorem lineCommentLength_le (text : List Char) : lineCommentLength text ≤ text.length :=
  (List.takeWhile_prefix _).length_le

theorem blockCommentLength_le (text : List Char) : blockCommentLength text ≤ text.length := by
  fun_induction blockCommentLength text with
  | case1 => simp
  | case2 c rest _ ih => simpa using ih
  | case3 => simp

theorem quotedLength_le (close : Char) (text : List Char) : quotedLength close text ≤ text.length := by
  fun_induction quotedLength close text with
  | case1 => simp
  | case2 c rest ih => simpa using ih
  | case3 => simp
  | case4 rest => simp
  | case5 c rest _ _ _ ih => simpa using ih

theorem skipLength?_bounds {text : List Char} {length : Nat} (found : skipLength? text = some length) :
    0 < length ∧ length ≤ text.length := by
  have line := lineCommentLength_le
  have block := blockCommentLength_le
  have quoted := quotedLength_le
  fun_cases skipLength? text
  all_goals simp only [skipLength?, Option.some.injEq, reduceCtorEq] at found
  all_goals
    subst found
    simp only [List.length_cons]
    grind

theorem blockLength_le (depth skip : Nat) (text : List Char) : blockLength depth skip text ≤ text.length := by
  fun_induction blockLength depth skip text
  all_goals simp
  all_goals omega

end Lengths

theorem blockLength_skip (depth : Nat) {skip : Nat} {text : List Char} (inside : skip ≤ text.length) :
    blockLength depth skip text = skip + blockLength depth 0 (text.drop skip) := by
  induction skip generalizing text with
  | zero => rw [List.drop_zero, Nat.zero_add]
  | succ skip ih =>
    cases text with
    | nil => cases inside
    | cons c rest =>
      rw [blockLength, ih (Nat.le_of_succ_le_succ inside), List.drop_succ_cons]
      omega

def commentLength? : List Char → Option Nat
  | '/' :: '/' :: rest => some (lineCommentLength rest + 2)
  | '/' :: '*' :: rest => some (blockCommentLength rest + 2)
  | _ => none

theorem commentLength?_eq_none {text : List Char} (noLine : ∀ rest, text ≠ '/' :: '/' :: rest)
    (noBlock : ∀ rest, text ≠ '/' :: '*' :: rest) : commentLength? text = none := by
  rw [commentLength?]
  · exact noLine
  · exact noBlock

/-- Inside a block, quoted texts are skipped beside comments. -/
theorem skipLength?_cons (c : Char) (rest : List Char) : skipLength? (c :: rest) =
    (commentLength? (c :: rest)).or (if c = '\'' ∨ c = '"' then some (quotedLength c rest + 1) else none) := by
  rw [skipLength?.eq_def]
  split
  case h_1 heq => cases heq; rfl
  case h_2 heq => cases heq; rfl
  case h_3 heq => cases heq; rfl
  case h_4 heq => cases heq; rfl
  case h_5 noLine noBlock noSingle noDouble =>
    rw [commentLength?_eq_none noLine noBlock, Option.none_or, if_neg]
    rintro (rfl | rfl)
    · exact noSingle rest rfl
    · exact noDouble rest rfl

/-- Outside of blocks, literals, character sets and blocks are blanked out beside comments. -/
theorem construct?_cons (c : Char) (rest : List Char) : construct? (c :: rest) =
    ((commentLength? (c :: rest)).map .hidden).or
      (if c = '\'' then some (.hidden (quotedLength '\'' rest + 1))
      else if c = '[' then some (.hidden (quotedLength ']' rest + 1))
      else if c = '\x7b' then some (.block (blockLength 1 0 rest + 1))
      else none) := by
  rw [construct?.eq_def]
  split
  case h_1 heq => cases heq; rfl
  case h_2 heq => cases heq; rfl
  case h_3 heq => cases heq; rfl
  case h_4 heq => cases heq; rfl
  case h_5 heq => cases heq; rfl
  case h_6 noLine noBlock noQuote noSet noBrace =>
    rw [commentLength?_eq_none noLine noBlock, Option.map_none, Option.none_or, if_neg, if_neg, if_neg]
    · exact fun brace => noBrace rest (congrArg (· :: rest) brace)
    · exact fun bracket => noSet rest (congrArg (· :: rest) bracket)
    · exact fun quote => noQuote rest (congrArg (· :: rest) quote)

section Steps
variable {before piece rest : List Char} {offset : Nat} {c : Char} {found : Construct}

def Construct.length : Construct → Nat
  | hidden length => length
  | block length => length

theorem construct?_bounds {text : List Char} (there : construct? text = some found) :
    0 < found.length ∧ found.length ≤ text.length := by
  have line := lineCommentLength_le
  have comment := blockCommentLength_le
  have quoted := quotedLength_le
  have block := blockLength_le
  fun_cases construct? text
  all_goals simp only [construct?, Option.some.injEq, reduceCtorEq] at there
  all_goals
    subst there
    simp only [Construct.length, List.length_cons]
    grind

/-- A text is passed piece by piece: constructs as a whole, and what begins none character by character. -/
@[elab_as_elim]
theorem piece_induction {motive : List Char → Prop} (text : List Char) (nil : motive [])
    (plain : ∀ c rest, construct? (c :: rest) = none → motive rest → motive (c :: rest))
    (construct : ∀ piece rest found, construct? (piece ++ rest) = some found → piece.length = found.length →
      piece ≠ [] → motive rest → motive (piece ++ rest)) : motive text := by
  cases text with
  | nil => exact nil
  | cons c rest =>
    cases there : construct? (c :: rest) with
    | none => exact plain c rest there (piece_induction rest nil plain construct)
    | some found =>
      obtain ⟨positive, inside⟩ := construct?_bounds there
      have whole := List.length_take_of_le inside
      have split := List.take_append_drop found.length (c :: rest)
      have passed := construct ((c :: rest).take found.length) ((c :: rest).drop found.length) found
      rw [split] at passed
      exact passed there whole (List.ne_nil_of_length_pos (by omega))
        (piece_induction ((c :: rest).drop found.length) nil plain construct)
termination_by text.length
decreasing_by
  · simp
  · rw [List.length_drop, List.length_cons]
    omega

/-- What is masked, behind a text with its own actions. -/
def Masked.after (masked : Masked) (text : List Char) (actions : List (Nat × Nat)) : Masked :=
  ⟨text ++ masked.text, actions ++ masked.actions⟩

@[simp] theorem Masked.after_after (masked : Masked) (text front : List Char) (actions first : List (Nat × Nat)) :
    (masked.after text actions).after front first = masked.after (front ++ text) (first ++ actions) := by
  simp [after]

/-- The actions that a construct adds: itself, if it is a block that no keyword introduces. -/
def Construct.actions (before : List Char) (offset : Nat) (piece : List Char) : Construct → List (Nat × Nat)
  | hidden _ => []
  | block _ => if lastWord before ∈ blockKeywords then [] else [contentRange offset piece]

theorem maskAfter_plain (plain : construct? (c :: rest) = none) :
    maskAfter before offset 0 (c :: rest) = (maskAfter (c :: before) (offset + 1) 0 rest).after [c] [] := by
  rw [maskAfter, plain]
  rfl

theorem maskAfter_skip (before : List Char) (offset : Nat) (piece rest : List Char) :
    maskAfter before offset piece.length (piece ++ rest) =
      (maskAfter ((piece.map blank).reverse ++ before) (offset + piece.length) 0 rest).after (piece.map blank) [] := by
  induction piece generalizing before offset with
  | nil => rfl
  | cons c piece ih =>
    rw [List.length_cons, List.cons_append, maskAfter, ih]
    simp [Masked.after, Nat.add_assoc, Nat.add_comm 1]

theorem maskAfter_construct (there : construct? (piece ++ rest) = some found) (whole : piece.length = found.length)
    (nonempty : piece ≠ []) : maskAfter before offset 0 (piece ++ rest) =
      (maskAfter ((piece.map blank).reverse ++ before) (offset + piece.length) 0 rest).after (piece.map blank)
        (found.actions before offset piece) := by
  obtain ⟨c, piece, rfl⟩ := List.exists_cons_of_ne_nil nonempty
  have inner : found.length - 1 = piece.length := by rw [← whole]; rfl
  have skipped := maskAfter_skip (blank c :: before) (offset + 1) piece rest
  rw [List.cons_append] at there ⊢
  rw [maskAfter, there]
  cases found with
  | hidden length =>
    simp only [Construct.length] at inner
    simp [inner, skipped, Masked.after, Construct.actions, Nat.add_assoc, Nat.add_comm 1]
  | block length =>
    simp only [Construct.length] at inner whole
    have content : (c :: (piece ++ rest)).take length = c :: piece := by
      rw [← whole, ← List.cons_append, List.take_left]
    simp [inner, skipped, content, Masked.after, Construct.actions, Nat.add_assoc, Nat.add_comm 1]

end Steps

end GrammarFlow.Scan
