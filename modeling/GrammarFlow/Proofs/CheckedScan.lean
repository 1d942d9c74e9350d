import GrammarFlow.Grammar.ScanByOffset
import GrammarFlow.Proofs.ScanSteps

/-! The pass over a grammar's text, offset by offset, ends and never fails: every place and every range that it
looks at is there, and every round moves forward. What it leaves is the masked text. -/

namespace GrammarFlow.Scan

section Splits
variable {done rest : List Char} {c : Char}

theorem getElem?_here (done rest : List Char) (c : Char) : (done ++ c :: rest)[done.length]? = some c := by simp

theorem getElem?_next (done rest : List Char) (c : Char) : (done ++ c :: rest)[done.length + 1]? = rest.head? := by
  simp [List.getElem?_append_right, List.head?_eq_getElem?]

theorem lineFeedFrom?_eq (done rest : List Char) :
    lineFeedFrom? (done ++ rest) done.length = some (done.length + lineCommentLength rest) := by
  induction rest generalizing done with
  | nil => rw [lineFeedFrom?]; simp [lineCommentLength]
  | cons c rest ih =>
    have onward : lineFeedFrom? (done ++ c :: rest) (done.length + 1) =
        some (done.length + 1 + lineCommentLength rest) := by simpa using ih (done ++ [c])
    rw [lineFeedFrom?, lineCommentLength_cons]
    simp only [getElem?_here, Option.bind_eq_bind, Option.bind_some, onward]
    by_cases ends : c = '\n'
    · simp [ends]
    · simp [ends, Nat.add_assoc, Nat.add_comm 1]

theorem commentEndFrom?_eq (done rest : List Char) :
    commentEndFrom? (done ++ rest) done.length = some (done.length + blockCommentLength rest) := by
  induction rest generalizing done with
  | nil => rw [commentEndFrom?]; simp [blockCommentLength]
  | cons c rest ih =>
    have onward : commentEndFrom? (done ++ c :: rest) (done.length + 1) =
        some (done.length + 1 + blockCommentLength rest) := by simpa using ih (done ++ [c])
    rw [commentEndFrom?, blockCommentLength_cons]
    simp only [getElem?_here, getElem?_next, Option.bind_eq_bind, Option.bind_some, onward]
    cases rest with
    | nil => simp [blockCommentLength]
    | cons d rest =>
      by_cases closes : c = '*' ∧ d = '/'
      · simp [closes]
      · simp [closes, Nat.add_assoc, Nat.add_comm 1]

theorem quoteEndFrom?_eq (close : Char) (done rest : List Char) :
    quoteEndFrom? close (done ++ rest) done.length = some (done.length + quotedLength close rest) := by
  fun_induction quotedLength close rest generalizing done with
  | case1 => rw [quoteEndFrom?]; simp
  | case2 c rest ih =>
    have onward : quoteEndFrom? close (done ++ '\\' :: c :: rest) (done.length + 2) =
        some (done.length + 2 + quotedLength close rest) := by simpa using ih (done ++ ['\\', c])
    rw [quoteEndFrom?]
    simp [onward, Nat.add_assoc, Nat.add_comm 2]
  | case3 =>
    rw [quoteEndFrom?, quoteEndFrom?]
    simp
  | case4 rest pair single =>
    rw [quoteEndFrom?]
    simp [ne_backslash pair single]
  | case5 c rest pair single other ih =>
    have onward : quoteEndFrom? close (done ++ c :: rest) (done.length + 1) =
        some (done.length + 1 + quotedLength close rest) := by simpa using ih (done ++ [c])
    rw [quoteEndFrom?]
    simp [ne_backslash pair single, other, onward, Nat.add_assoc, Nat.add_comm 1]

theorem commentAt?_eq (done rest : List Char) (c : Char) :
    commentAt? (done ++ c :: rest) done.length = some ((commentLength? (c :: rest)).map (done.length + ·)) := by
  simp only [commentAt?, getElem?_here, getElem?_next, Option.bind_eq_bind, Option.bind_some]
  by_cases line : c = '/' ∧ rest.head? = some '/'
  · obtain ⟨rfl, behind⟩ := line
    obtain ⟨tail, rfl⟩ := List.head?_eq_some_iff.mp behind
    rw [if_pos ⟨rfl, behind⟩, lineFeedFrom?_eq]
    simp [lineCommentLength_cons, commentLength?]
  rw [if_neg line]
  by_cases block : c = '/' ∧ rest.head? = some '*'
  · obtain ⟨rfl, behind⟩ := block
    obtain ⟨tail, rfl⟩ := List.head?_eq_some_iff.mp behind
    have inside : commentEndFrom? (done ++ '/' :: '*' :: tail) (done.length + 2) =
        some (done.length + 2 + blockCommentLength tail) := by simpa using commentEndFrom?_eq (done ++ ['/', '*']) tail
    rw [if_pos ⟨rfl, behind⟩, inside]
    simp [commentLength?, Nat.add_assoc, Nat.add_comm 2]
  rw [if_neg block, commentLength?_eq_none]
  · rfl
  · rintro tail same
    cases same
    exact line ⟨rfl, rfl⟩
  · rintro tail same
    cases same
    exact block ⟨rfl, rfl⟩

theorem quoteEndFrom?_next (close : Char) (done rest : List Char) (c : Char) :
    quoteEndFrom? close (done ++ c :: rest) (done.length + 1) =
      some (done.length + (quotedLength close rest + 1)) := by
  have behind := quoteEndFrom?_eq close (done ++ [c]) rest
  rw [List.append_assoc, List.singleton_append, List.length_append, List.length_singleton] at behind
  rw [behind, Nat.add_assoc, Nat.add_comm 1]

theorem skipAt?_eq (done rest : List Char) (c : Char) :
    skipAt? (done ++ c :: rest) done.length = some ((skipLength? (c :: rest)).map (done.length + ·)) := by
  simp only [skipAt?, commentAt?_eq, getElem?_here, Option.bind_eq_bind, Option.bind_some, skipLength?_cons,
    quoteEndFrom?_next]
  cases commentLength? (c :: rest) with
  | some length => rfl
  | none => by_cases quote : c = '\'' ∨ c = '"' <;> simp [quote]

/-- Inside a block the depth is above zero, so a closing brace can always be counted off. -/
theorem blockEndFrom?_eq {depth : Nat} (opened : 0 < depth) (done rest : List Char) :
    blockEndFrom? (done ++ rest) depth done.length = some (done.length + blockLength depth 0 rest) := by
  cases rest with
  | nil => rw [blockEndFrom?]; simp [blockLength]
  | cons c rest =>
    have inside : done.length < (done ++ c :: rest).length := by simp
    have onward {depth : Nat} (opened : 0 < depth) : blockEndFrom? (done ++ c :: rest) depth (done.length + 1) =
        some (done.length + (blockLength depth 0 rest + 1)) := by
      have behind := blockEndFrom?_eq opened (done ++ [c]) rest
      rw [List.append_assoc, List.singleton_append, List.length_append, List.length_singleton] at behind
      rw [behind, Nat.add_assoc, Nat.add_comm 1]
    rw [blockEndFrom?, dif_pos inside, blockLength]
    simp only [getElem?_here, skipAt?_eq, Option.bind_eq_bind, Option.bind_some]
    by_cases opens : c = '\x7b'
    · rw [if_pos opens, if_pos opens, onward (Nat.succ_pos depth)]
    rw [if_neg opens, if_neg opens]
    by_cases closes : c = '\x7d'
    · rw [if_pos closes, if_pos closes, Text.minus?_of_le opened, Option.bind_some]
      by_cases last : depth ≤ 1
      · rw [if_pos last, if_pos (by omega)]
        rfl
      · rw [if_neg last, if_neg (by omega), onward (by omega)]
    rw [if_neg closes, if_neg closes]
    cases skipped : skipLength? (c :: rest) with
    | none => exact onward opened
    | some length =>
      obtain ⟨positive, within⟩ := skipLength?_bounds skipped
      have behind := blockEndFrom?_eq opened (done ++ (c :: rest).take length) ((c :: rest).drop length)
      rw [List.append_assoc, List.take_append_drop, List.length_append, List.length_take_of_le within] at behind
      have forward : done.length < done.length + length := Nat.lt_add_of_pos_right positive
      have dropped : rest.drop (length - 1) = (c :: rest).drop length := by
        rw [← Nat.sub_add_cancel positive, List.drop_succ_cons, Nat.add_sub_cancel]
      have enough : length - 1 ≤ rest.length := by rw [List.length_cons] at within; omega
      simp only [Option.map_some, dif_pos forward, behind, blockLength_skip depth enough, dropped]
      congr 1
      omega
termination_by rest.length
decreasing_by
  · simp
  · rw [List.length_drop]
    simp only [List.length_cons] at within ⊢
    omega

theorem blockEndFrom?_open (done rest : List Char) : blockEndFrom? (done ++ '\x7b' :: rest) 0 done.length =
    some (done.length + (blockLength 1 0 rest + 1)) := by
  have inside : done.length < (done ++ '\x7b' :: rest).length := by simp
  have behind := blockEndFrom?_eq Nat.one_pos (done ++ ['\x7b']) rest
  rw [List.append_assoc, List.singleton_append, List.length_append, List.length_singleton] at behind
  rw [blockEndFrom?, dif_pos inside, getElem?_here, Option.bind_eq_bind, Option.bind_some, if_pos rfl, behind,
    Nat.add_assoc, Nat.add_comm 1]

def Construct.extent (offset : Nat) : Construct → Extent
  | hidden length => .hidden (offset + length)
  | block length => .block (offset + length)

theorem extentAt?_eq (done rest : List Char) (c : Char) : extentAt? (done ++ c :: rest) done.length =
    some ((construct? (c :: rest)).map (Construct.extent done.length)) := by
  simp only [extentAt?, commentAt?_eq, getElem?_here, Option.bind_eq_bind, Option.bind_some, construct?_cons,
    quoteEndFrom?_next]
  cases commentLength? (c :: rest) with
  | some length => rfl
  | none =>
    by_cases quote : c = '\''
    · simp [quote, Construct.extent]
    by_cases bracket : c = '['
    · simp [bracket, Construct.extent]
    by_cases brace : c = '\x7b'
    · have block := blockEndFrom?_open done rest
      subst brace
      simp [block, Construct.extent]
    · simp [quote, bracket, brace]

theorem extent_stop (offset : Nat) (found : Construct) : (found.extent offset).stop = offset + found.length := by
  cases found <;> rfl

theorem extent_actions? {done blanked piece : List Char} {found : Construct} (same : blanked.length = done.length)
    (whole : piece.length = found.length) (nonempty : piece ≠ []) (rest : List Char) :
    (found.extent done.length).actions? (done ++ (piece ++ rest)) (blanked ++ (piece ++ rest)) done.length =
      some (found.actions blanked.reverse done.length piece) := by
  cases found with
  | hidden => rfl
  | block length =>
    simp only [Construct.length] at whole
    have positive := List.length_pos_iff.mpr nonempty
    have before : Text.cut? (blanked ++ (piece ++ rest)) 0 done.length = some blanked := by
      rw [Text.cut?_of_inside (Nat.zero_le _) (by simp [same]), ← same]
      simp
    have last : (done ++ (piece ++ rest))[done.length + piece.length - 1]? = some (piece.getLast nonempty) := by
      rw [List.getElem?_append_right (by omega), List.getElem?_append_left (by omega),
        ← List.getLast?_eq_some_getLast, List.getLast?_eq_getElem?]
      congr 1
      omega
    simp only [Construct.extent, Extent.actions?, ← whole,
      Text.minus?_of_le (by omega : 1 ≤ done.length + piece.length), before, last, Option.bind_eq_bind, Option.bind_some, Construct.actions, contentRange,
      List.getLast?_eq_some_getLast nonempty, Option.some.injEq]
    split <;> rfl

theorem blankOut?_eq {done blanked : List Char} (same : blanked.length = done.length) (piece rest : List Char) :
    blankOut? (blanked ++ (piece ++ rest)) done.length (done.length + piece.length) =
      some (blanked ++ piece.map blank ++ rest) := by
  have inside : done.length + piece.length ≤ (blanked ++ (piece ++ rest)).length := by simp [same]
  rw [blankOut?, Text.cut?_of_inside (Nat.le_add_right _ _) inside, ← same]
  simp [List.drop_append]

/-- The copy has been blanked out up to the offset, and from there on it is still the text. -/
theorem scanFrom?_eq (done blanked rest : List Char) (same : blanked.length = done.length)
    (actions : List (Nat × Nat)) : scanFrom? (done ++ rest) (blanked ++ rest) actions done.length =
      some ((maskAfter blanked.reverse done.length 0 rest).after blanked actions) := by
  induction rest using piece_induction generalizing done blanked actions with
  | nil => rw [scanFrom?]; simp [maskAfter, Masked.after]
  | plain c rest none ih =>
    have inside : done.length < (done ++ c :: rest).length := by simp
    have onward := ih (done ++ [c]) (blanked ++ [c]) (by simp [same]) actions
    simp only [List.append_assoc, List.singleton_append, List.length_append, List.length_singleton,
      List.reverse_append, List.reverse_singleton] at onward
    rw [scanFrom?, dif_pos inside]
    simp only [extentAt?_eq, none, Option.bind_eq_bind, Option.bind_some, Option.map_none, onward, maskAfter_plain none,
      Masked.after_after, List.append_nil]
  | construct piece rest found there whole nonempty ih =>
    have forward : done.length < done.length + piece.length :=
      Nat.lt_add_of_pos_right (List.length_pos_iff.mpr nonempty)
    have inside : done.length < (done ++ (piece ++ rest)).length := by simp only [List.length_append]; omega
    have extent : extentAt? (done ++ (piece ++ rest)) done.length = some (some (found.extent done.length)) := by
      obtain ⟨c, piece, rfl⟩ := List.exists_cons_of_ne_nil nonempty
      rw [List.cons_append, extentAt?_eq, ← List.cons_append, there, Option.map_some]
    have onward := ih (done ++ piece) (blanked ++ piece.map blank) (by simp [same])
      (actions ++ found.actions blanked.reverse done.length piece)
    rw [List.append_assoc, List.length_append, List.reverse_append] at onward
    rw [scanFrom?, dif_pos inside]
    simp only [extent, Option.bind_eq_bind, Option.bind_some, extent_actions? same whole nonempty, extent_stop, ← whole,
      blankOut?_eq same, dif_pos forward, onward, maskAfter_construct there whole nonempty, Masked.after_after]

/-- Whatever the text, the pass fails nowhere. -/
theorem scan?_eq (text : List Char) : scan? text = some (mask text) := by
  have whole := scanFrom?_eq [] [] text rfl []
  exact whole

end Splits

end GrammarFlow.Scan
