import GrammarFlow.Process.LineReader
import GrammarFlow.Proofs.TextEncoding
import Mathlib.Data.List.Basic
import Mathlib.Data.List.TakeWhile

/-!
Lines cut out of bytes and lines cut out of the decoded text. A byte below 0x80 is a character of its own wherever
it stands, and no other run of bytes is read as a line feed; so it does not matter whether a stream is cut before
or after it is decoded, nor in which chunks it arrives.
-/

namespace GrammarFlow

/-- A text in pieces, each up to something that ends it; what is left at the end is a piece too. -/
inductive CutBehind {α : Type} (ends : α → Bool) : List α → List (List α) → Prop where
  | nothing : CutBehind ends [] []
  | last {line : List α} (some : line ≠ []) (unended : ∀ a ∈ line, ends a = false) : CutBehind ends line [line]
  | ended {line rest : List α} {stop : α} {pieces : List (List α)} (unended : ∀ a ∈ line, ends a = false)
      (stops : ends stop = true) (cut : CutBehind ends rest pieces) :
      CutBehind ends (line ++ stop :: rest) ((line ++ [stop]) :: pieces)

section Cut
variable {α : Type} {ends : α → Bool} {text : List α} {pieces : List (List α)}

theorem splitBehind_unended {line : List α} (unended : ∀ a ∈ line, ends a = false) :
    splitBehind ends line = if line.isEmpty then [] else [line] := by
  induction line with
  | nil => rfl
  | cons a line ih =>
    obtain ⟨first, unended⟩ := List.forall_mem_cons.1 unended
    rw [splitBehind, first, ih unended]
    cases line <;> rfl

theorem splitBehind_ended {line : List α} {stop : α} (unended : ∀ a ∈ line, ends a = false)
    (stops : ends stop = true) (rest : List α) :
    splitBehind ends (line ++ stop :: rest) = (line ++ [stop]) :: splitBehind ends rest := by
  induction line with
  | nil => rw [List.nil_append, splitBehind, if_pos stops, List.nil_append]
  | cons a line ih =>
    obtain ⟨first, unended⟩ := List.forall_mem_cons.1 unended
    rw [List.cons_append, splitBehind, first, ih unended]
    rfl

theorem CutBehind.cons {a : α} (unended : ends a = false) : CutBehind ends text pieces →
    CutBehind ends (a :: text) (match pieces with
      | [] => [[a]]
      | piece :: pieces => (a :: piece) :: pieces) := by
  intro cut
  cases cut with
  | nothing => exact .last (List.cons_ne_nil _ _) (List.forall_mem_singleton.2 unended)
  | last some open' => exact .last (List.cons_ne_nil _ _) (List.forall_mem_cons.2 ⟨unended, open'⟩)
  | @ended line rest stop pieces open' stops cut =>
    rw [← List.cons_append]
    exact .ended (List.forall_mem_cons.2 ⟨unended, open'⟩) stops cut

theorem cutBehind_split (ends : α → Bool) (text : List α) : CutBehind ends text (splitBehind ends text) := by
  induction text with
  | nil => exact .nothing
  | cons a text ih =>
    rw [splitBehind]
    cases here : ends a with
    | true => exact .ended (List.forall_mem_nil _) here ih
    | false => exact ih.cons here

/-- A text can be cut in one way only. -/
theorem CutBehind.eq_split (cut : CutBehind ends text pieces) : pieces = splitBehind ends text := by
  induction cut with
  | nothing => rfl
  | @last line some unended => rw [splitBehind_unended unended, if_neg (by simpa using some)]
  | ended unended stops cut ih => rw [splitBehind_ended unended stops, ih]

theorem CutBehind.flatten (cut : CutBehind ends text pieces) : pieces.flatten = text := by
  induction cut with
  | nothing => rfl
  | last some unended => exact List.append_nil _
  | ended unended stops cut ih => rw [List.flatten_cons, ih, List.append_assoc, List.singleton_append]

theorem CutBehind.length (cut : CutBehind ends text pieces) :
    pieces.length = text.countP ends + if text.getLast?.all ends then 0 else 1 := by
  induction cut with
  | nothing => rfl
  | @last line some unended =>
    have none : line.countP ends = 0 := List.countP_eq_zero.2 fun a member => by simp [unended a member]
    rw [none, List.getLast?_eq_some_getLast some, Option.all_some, unended _ (List.getLast_mem some)]
    rfl
  | @ended line rest stop pieces unended stops cut ih =>
    have none : line.countP ends = 0 := List.countP_eq_zero.2 fun a member => by simp [unended a member]
    have last : (line ++ stop :: rest).getLast?.all ends = rest.getLast?.all ends := by
      cases rest with
      | nil => simp [stops]
      | cons a rest => simp [List.getLast?_append, List.getLast?_cons]
    rw [List.length_cons, ih, last, List.countP_append, none, List.countP_cons_of_pos stops]
    omega

end Cut

namespace Text.Utf8

theorem expected_range {lead low high : UInt8} {count : Nat} (called : expected lead = some (count, low, high)) :
    0x80 ≤ low.toNat ∧ high.toNat ≤ 0xbf ∧
      (count = 0 ∧ lead.toNat < 0x80 ∨ count = 1 ∧ 0xc2 ≤ lead.toNat ∧ lead.toNat < 0xe0 ∨
        count = 2 ∧ 0xe0 ≤ lead.toNat ∧ lead.toNat < 0xf0 ∧ (lead.toNat = 0xe0 → 0xa0 ≤ low.toNat) ∨
        count = 3 ∧ 0xf0 ≤ lead.toNat ∧ lead.toNat ≤ 0xf4 ∧ (lead.toNat = 0xf0 → 0x90 ≤ low.toNat)) := by
  simp only [expected, UInt8.lt_iff_toNat_lt, UInt8.reduceToNat, ← UInt8.toNat_inj] at called
  repeat' split at called
  all_goals
    cases called <;> simp <;> omega

/-- Bytes that continue a character are looked for no further than up to a byte below 0x80. -/
theorem continuations_behind {low stop : UInt8} (above : 0x80 ≤ low.toNat) (small : stop.toNat < 0x80)
    (count : Nat) (high : UInt8) (bytes rest : List UInt8) :
    continuations count low high (bytes ++ stop :: rest) = continuations count low high bytes := by
  induction bytes generalizing count low high with
  | nil =>
    cases count with
    | zero => rfl
    | succ count =>
      have outside : ¬(low ≤ stop ∧ stop ≤ high) := by
        rw [UInt8.le_iff_toNat_le]
        omega
      rw [List.nil_append, continuations, continuations, if_neg outside]
  | cons byte bytes ih =>
    cases count with
    | zero => rfl
    | succ count => rw [List.cons_append, continuations, continuations, ih (Nat.le_refl _)]

theorem length_continuations_le (count : Nat) (low high : UInt8) (bytes : List UInt8) :
    (continuations count low high bytes).length ≤ bytes.length := by
  induction bytes generalizing count low high with
  | nil => cases count <;> exact Nat.le_refl _
  | cons byte bytes ih =>
    cases count with
    | zero => exact Nat.zero_le _
    | succ count =>
      rw [continuations]
      split
      · exact Nat.succ_le_succ (ih ..)
      · exact Nat.zero_le _

theorem pieces_behind (bytes : List UInt8) {stop : UInt8} (small : stop.toNat < 0x80) (rest : List UInt8) :
    pieces (bytes ++ stop :: rest) = pieces bytes ++ pieces (stop :: rest) := by
  fun_induction pieces bytes with
  | case1 => rfl
  | case2 lead bytes uncalled ih => rw [List.cons_append, pieces, uncalled, ih, List.cons_append]
  | case3 lead bytes count low high called following piece ih =>
    have same := continuations_behind (expected_range called).1 small count high bytes rest
    have within := length_continuations_le count low high bytes
    rw [List.cons_append, pieces, called]
    dsimp only
    rw [same, List.drop_append_of_le_length within, ih]
    rfl

theorem range_of_continuations {count : Nat} {low high byte : UInt8} {bytes more : List UInt8}
    (found : continuations count low high bytes = byte :: more) : low.toNat ≤ byte.toNat ∧ byte.toNat ≤ high.toNat := by
  cases count with
  | zero => cases found
  | succ count =>
    cases bytes with
    | nil => cases found
    | cons first bytes =>
      rw [continuations] at found
      split at found
      next within =>
        cases found
        exact ⟨UInt8.le_iff_toNat_le.1 within.1, UInt8.le_iff_toNat_le.1 within.2⟩
      next => cases found

/-- Overlong forms being kept out, more than one byte spells a number that one byte does not. -/
theorem codePoint_large {lead low high : UInt8} {count : Nat} {bytes following : List UInt8}
    (called : expected lead = some (count, low, high)) (found : continuations count low high bytes = following)
    (full : following.length = count) (more : count ≠ 0) : 0x80 ≤ codePoint lead following := by
  obtain ⟨-, top, none | ⟨rfl, low', high'⟩ | ⟨rfl, low', high', first⟩ | ⟨rfl, low', high', first⟩⟩ :=
    expected_range called
  · exact absurd none.1 more
  · obtain ⟨b, rfl⟩ := List.length_eq_one_iff.1 full
    simp only [codePoint, List.length_singleton, List.foldl_cons, List.foldl_nil]
    omega
  · obtain ⟨b, c, rfl⟩ := List.length_eq_two.1 full
    have := range_of_continuations found
    simp only [codePoint, List.length_cons, List.length_nil, List.foldl_cons, List.foldl_nil]
    omega
  · obtain ⟨b, c, d, rfl⟩ := List.length_eq_three.1 full
    have := range_of_continuations found
    simp only [codePoint, List.length_cons, List.length_nil, List.foldl_cons, List.foldl_nil]
    omega

theorem eq_of_ofNat_eq_lineFeed {value : Nat} (same : Char.ofNat value = '\n') : value = 0x0a := by
  by_cases valid : value.isValidChar
  · have code : (Char.ofNat value).toNat = value := by
      rw [Char.ofNat, dif_pos valid]
      rfl
    rw [same] at code
    exact code.symm
  · rw [Char.ofNat, dif_neg valid] at same
    exact absurd same (by decide)

theorem lineFeed_mem_of_pieces {bytes : List UInt8} (member : some '\n' ∈ pieces bytes) : 0x0a ∈ bytes := by
  fun_induction pieces bytes with
  | case1 => cases member
  | case2 lead bytes uncalled ih =>
    obtain same | member := List.mem_cons.1 member
    · cases same
    · exact List.mem_cons_of_mem _ (ih member)
  | case3 lead bytes count low high called following piece ih =>
    obtain same | member := List.mem_cons.1 member
    · obtain ⟨full, spelled⟩ : following.length = count ∧ Char.ofNat (codePoint lead following) = '\n' := by
        simpa [piece, eq_comm] using same
      have code := eq_of_ofNat_eq_lineFeed spelled
      by_cases alone : count = 0
      · rw [alone, List.length_eq_zero_iff] at full
        rw [full] at code
        have lead' : lead = 0x0a := UInt8.toNat_inj.1 code
        exact lead' ▸ List.mem_cons_self
      · have large : 0x80 ≤ codePoint lead following := codePoint_large called rfl full alone
        omega
    · exact List.mem_cons_of_mem _ (List.mem_of_mem_drop (ih member))

theorem decodeLossy_lineFeed (line rest : List UInt8) :
    decodeLossy (line ++ 0x0a :: rest) = decodeLossy line ++ '\n' :: decodeLossy rest := by
  rw [decodeLossy, pieces_behind line (by decide) rest, pieces_one (by decide), List.map_append]
  rfl

theorem decodeLossy_unended {line : List UInt8} (unended : ∀ byte ∈ line, decide (byte = 0x0a) = false) :
    ∀ c ∈ decodeLossy line, decide (c = '\n') = false := by
  intro c member
  rw [decide_eq_false_iff_not]
  rintro rfl
  obtain ⟨piece, among, shown⟩ := List.mem_map.1 member
  cases piece with
  | none => exact absurd shown (by decide)
  | some c =>
    cases shown
    exact absurd rfl (of_decide_eq_false (unended _ (lineFeed_mem_of_pieces among)))

theorem decodeLossy_ne_nil {line : List UInt8} (some : line ≠ []) : decodeLossy line ≠ [] := by
  obtain ⟨lead, rest, rfl⟩ := List.exists_cons_of_ne_nil some
  rw [decodeLossy, pieces]
  split <;> simp

end Text.Utf8

/-- The pieces of the bytes are the pieces of the text. -/
theorem CutBehind.decode {bytes : List UInt8} {pieces : List (List UInt8)}
    (cut : CutBehind (fun byte => decide (byte = 0x0a)) bytes pieces) :
    CutBehind (fun c => decide (c = '\n')) (Text.Utf8.decodeLossy bytes) (pieces.map Text.Utf8.decodeLossy) := by
  induction cut with
  | nothing =>
    rw [Text.Utf8.decodeLossy, Text.Utf8.pieces]
    exact .nothing
  | last some unended => exact .last (Text.Utf8.decodeLossy_ne_nil some) (Text.Utf8.decodeLossy_unended unended)
  | @ended line rest stop pieces unended stops cut ih =>
    obtain rfl := of_decide_eq_true stops
    have alone : Text.Utf8.decodeLossy (line ++ [0x0a]) = Text.Utf8.decodeLossy line ++ ['\n'] := by
      rw [Text.Utf8.decodeLossy_lineFeed, Text.Utf8.decodeLossy, Text.Utf8.decodeLossy, Text.Utf8.pieces]
      rfl
    rw [Text.Utf8.decodeLossy_lineFeed, List.map_cons, alone]
    exact .ended (Text.Utf8.decodeLossy_unended unended) rfl ih

/-- A line that is read ends in its one line feed, or else it is the rest of the stream. -/
theorem readLine_line {begun line : List UInt8} {chunks rest : List (List UInt8)}
    (unended : ∀ byte ∈ begun, decide (byte = 0x0a) = false) (read : readLine begun chunks = (line, rest)) :
    (∃ front, line = front ++ [0x0a] ∧ ∀ byte ∈ front, decide (byte = 0x0a) = false) ∨
      (∀ byte ∈ line, decide (byte = 0x0a) = false) ∧ rest = [] := by
  fun_induction readLine begun chunks with
  | case1 begun =>
    cases read
    exact .inr ⟨unended, rfl⟩
  | case2 begun chunk chunks open' ih =>
    refine ih ?_ read
    have passed := List.dropWhile_eq_nil_iff.1 open'
    intro byte member
    obtain earlier | later := List.mem_append.1 member
    · exact unended byte earlier
    · simpa using passed byte later
  | case3 begun chunk chunks feed rest' ended =>
    cases read
    have feed' : feed = 0x0a := by
      have stopped := List.head?_dropWhile_not (· ≠ 0x0a) chunk
      rw [ended] at stopped
      simpa using stopped
    refine .inl ⟨begun ++ chunk.takeWhile (· ≠ 0x0a), by rw [feed'], ?_⟩
    intro byte member
    obtain earlier | later := List.mem_append.1 member
    · exact unended byte earlier
    · simpa using List.mem_takeWhile_imp later

/-- The chunks in which a stream arrives leave no trace. -/
theorem readLines_eq (chunks : List (List UInt8)) : readLines chunks = outputLines chunks.flatten := by
  have nothingBegun : ∀ byte ∈ ([] : List UInt8), decide (byte = 0x0a) = false := List.forall_mem_nil _
  fun_induction readLines chunks with
  | case1 chunks rest read =>
    have whole : rest.flatten = chunks.flatten := by
      have parts := readLine_whole [] chunks
      rwa [read] at parts
    obtain ⟨front, line, -⟩ | ⟨-, rfl⟩ := readLine_line nothingBegun read
    · exact absurd line.symm (List.append_ne_nil_of_right_ne_nil _ (List.cons_ne_nil _ _))
    · rw [← whole]
      rfl
  | case2 chunks byte line rest read ih =>
    have whole : byte :: line ++ rest.flatten = chunks.flatten := by
      have parts := readLine_whole [] chunks
      rwa [read] at parts
    rw [← whole, ih, outputLines, outputLines]
    obtain ⟨front, ended, unended⟩ | ⟨unended, rfl⟩ := readLine_line nothingBegun read
    · rw [ended, List.append_assoc, List.singleton_append, splitBehind_ended unended (by rfl), List.map_cons]
    · rw [List.flatten_nil, List.append_nil, splitBehind_unended unended]
      rfl

theorem trimLineEnd_parts (line : List Char) : ∃ ending, line = trimLineEnd line ++ ending ∧
    (∀ c ∈ ending, c = '\r' ∨ c = '\n') ∧ ∀ c, (trimLineEnd line).getLast? = some c → c ≠ '\r' ∧ c ≠ '\n' := by
  let ends : Char → Bool := fun c => c = '\r' || c = '\n'
  refine ⟨(line.reverse.takeWhile ends).reverse, ?_, ?_, ?_⟩
  · rw [trimLineEnd, Text.trimEndChars, ← List.reverse_append, List.takeWhile_append_dropWhile, List.reverse_reverse]
  · intro c member
    simpa [ends] using List.mem_takeWhile_imp (List.mem_reverse.1 member)
  · intro c last
    rw [trimLineEnd, Text.trimEndChars, List.getLast?_reverse] at last
    have stopped := List.head?_dropWhile_not ends line.reverse
    rw [last] at stopped
    simpa [ends] using stopped

/-- The lines of a stream are those of its decoded text, in whatever chunks the stream arrives. The text is cut behind
each line feed, which can be done in one way; every piece is a line, and only carriage returns and line feeds at the
ends of pieces are lost. -/
theorem lines_of_decoded_stream (chunks : List (List UInt8)) :
    let text := Text.Utf8.decodeLossy chunks.flatten
    readLines chunks = outputLines chunks.flatten ∧
      ∃ pieces, CutBehind (fun c => decide (c = '\n')) text pieces ∧
        (∀ others, CutBehind (fun c => decide (c = '\n')) text others → others = pieces) ∧ pieces.flatten = text ∧
        readLines chunks = pieces.map (fun piece => String.ofList (trimLineEnd piece)) ∧
        (∀ piece ∈ pieces, ∃ ending, piece = trimLineEnd piece ++ ending ∧ (∀ c ∈ ending, c = '\r' ∨ c = '\n') ∧
          ∀ c, (trimLineEnd piece).getLast? = some c → c ≠ '\r' ∧ c ≠ '\n') ∧
        (readLines chunks).length =
          text.count '\n' + if text.getLast?.all (fun c => decide (c = '\n')) then 0 else 1 := by
  intro text
  have cut : CutBehind (fun c => decide (c = '\n')) text
      ((splitBehind (fun byte => decide (byte = 0x0a)) chunks.flatten).map Text.Utf8.decodeLossy) :=
    (cutBehind_split _ chunks.flatten).decode
  have lines : readLines chunks =
      ((splitBehind (fun byte => decide (byte = 0x0a)) chunks.flatten).map Text.Utf8.decodeLossy).map
        (fun piece => String.ofList (trimLineEnd piece)) := by
    rw [readLines_eq, outputLines, List.map_map]
    rfl
  refine ⟨readLines_eq chunks, _, cut, ?unique, cut.flatten, lines, fun piece _ => trimLineEnd_parts piece, ?count⟩
  case unique =>
    intro others cut'
    rw [cut'.eq_split, cut.eq_split]
  case count =>
    rw [lines, List.length_map, cut.length]
    rfl

end GrammarFlow
