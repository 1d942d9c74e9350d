import GrammarFlow.Text.Checked

/-!
Text that is encoded is read back as it was. Each character is one piece of its bytes, whatever bytes
follow.
-/

namespace GrammarFlow.Text

namespace Utf8

theorem expected_one {lead : UInt8} (small : lead.toNat < 0x80) : expected lead = some (0, 0x80, 0xbf) :=
  if_pos (UInt8.lt_iff_toNat_lt.2 small)

theorem expected_two {lead : UInt8} (low : 0xc2 ≤ lead.toNat) (high : lead.toNat < 0xe0) :
    expected lead = some (1, 0x80, 0xbf) := by
  simp only [expected, UInt8.lt_iff_toNat_lt, UInt8.reduceToNat]
  rw [if_neg (by omega), if_neg (by omega), if_pos high]

theorem expected_three {lead : UInt8} (low : 0xe0 ≤ lead.toNat) (high : lead.toNat < 0xf0) :
    expected lead = some (2, if lead.toNat = 0xe0 then 0xa0 else 0x80,
      if lead.toNat = 0xed then 0x9f else 0xbf) := by
  simp only [expected, UInt8.lt_iff_toNat_lt, UInt8.reduceToNat, ← UInt8.toNat_inj]
  rw [if_neg (by omega), if_neg (by omega), if_neg (by omega)]
  split
  next first => rw [if_neg (by omega)]
  next later => split <;> rfl

theorem expected_four {lead : UInt8} (low : 0xf0 ≤ lead.toNat) (high : lead.toNat ≤ 0xf4) :
    expected lead = some (3, if lead.toNat = 0xf0 then 0x90 else 0x80,
      if lead.toNat = 0xf4 then 0x8f else 0xbf) := by
  simp only [expected, UInt8.lt_iff_toNat_lt, UInt8.reduceToNat, ← UInt8.toNat_inj]
  rw [if_neg (by omega), if_neg (by omega), if_neg (by omega), if_neg (by omega), if_neg (by omega),
    if_neg (by omega)]
  split
  next first => rw [if_neg (by omega)]
  next later =>
    split
    next below => rw [if_neg (by omega)]
    next => rw [if_pos (by omega), if_pos (by omega)]

def Continues (byte : UInt8) : Prop := 0x80 ≤ byte.toNat ∧ byte.toNat ≤ 0xbf

theorem continuations_all {following : List UInt8} (rest : List UInt8)
    (continued : ∀ byte ∈ following, Continues byte) :
    continuations following.length 0x80 0xbf (following ++ rest) = following := by
  induction following with
  | nil => rfl
  | cons byte following ih =>
    obtain ⟨⟨low, high⟩, continued⟩ := List.forall_mem_cons.1 continued
    rw [List.length_cons, List.cons_append, continuations,
      if_pos ⟨UInt8.le_iff_toNat_le.2 low, UInt8.le_iff_toNat_le.2 high⟩, ih continued]

theorem pieces_character {lead byte low high : UInt8} {following rest : List UInt8}
    (called : expected lead = some (following.length + 1, low, high))
    (within : low.toNat ≤ byte.toNat ∧ byte.toNat ≤ high.toNat)
    (continued : ∀ byte ∈ following, Continues byte) :
    pieces (lead :: byte :: (following ++ rest)) =
      some (Char.ofNat (codePoint lead (byte :: following))) :: pieces rest := by
  have found : continuations (following.length + 1) low high (byte :: (following ++ rest)) =
      byte :: following := by
    rw [continuations, if_pos ⟨UInt8.le_iff_toNat_le.2 within.1, UInt8.le_iff_toNat_le.2 within.2⟩,
      continuations_all rest continued]
  rw [pieces, called]
  simp only [found, List.length_cons, if_true, List.drop_succ_cons, List.drop_left]

theorem pieces_one {lead : UInt8} (small : lead.toNat < 0x80) (rest : List UInt8) :
    pieces (lead :: rest) = some (Char.ofNat lead.toNat) :: pieces rest := by
  rw [pieces, expected_one small]
  rfl

theorem pieces_two {lead last : UInt8} (low : 0xc2 ≤ lead.toNat) (high : lead.toNat < 0xe0)
    (continued : Continues last) (rest : List UInt8) :
    pieces (lead :: last :: rest) =
      some (Char.ofNat (lead.toNat % 0x20 * 0x40 + last.toNat % 0x40)) :: pieces rest :=
  @pieces_character _ _ _ _ [] rest (expected_two low high) continued nofun

theorem pieces_three {lead second last : UInt8} (low : 0xe0 ≤ lead.toNat) (high : lead.toNat < 0xf0)
    (continued : Continues second) (first : lead.toNat = 0xe0 → 0xa0 ≤ second.toNat)
    (surrogate : lead.toNat = 0xed → second.toNat ≤ 0x9f) (ended : Continues last) (rest : List UInt8) :
    pieces (lead :: second :: last :: rest) =
      some (Char.ofNat ((lead.toNat % 0x10 * 0x40 + second.toNat % 0x40) * 0x40 + last.toNat % 0x40)) ::
        pieces rest := by
  refine @pieces_character _ _ _ _ [last] rest (expected_three low high) ⟨?_, ?_⟩ (by simpa using ended)
  · split
    next here => exact first here
    next => exact continued.1
  · split
    next here => exact surrogate here
    next => exact continued.2

theorem pieces_four {lead second third last : UInt8} (low : 0xf0 ≤ lead.toNat) (high : lead.toNat ≤ 0xf4)
    (continued : Continues second) (first : lead.toNat = 0xf0 → 0x90 ≤ second.toNat)
    (bounded : lead.toNat = 0xf4 → second.toNat ≤ 0x8f) (going : Continues third) (ended : Continues last)
    (rest : List UInt8) :
    pieces (lead :: second :: third :: last :: rest) =
      some (Char.ofNat (((lead.toNat % 0x8 * 0x40 + second.toNat % 0x40) * 0x40 + third.toNat % 0x40) * 0x40 +
        last.toNat % 0x40)) :: pieces rest := by
  refine @pieces_character _ _ _ _ [third, last] rest (expected_four low high) ⟨?_, ?_⟩
    (by simpa using ⟨going, ended⟩)
  · split
    next here => exact first here
    next => exact continued.1
  · split
    next here => exact bounded here
    next => exact continued.2

theorem pieces_utf8EncodeChar (c : Char) (rest : List UInt8) :
    pieces (String.utf8EncodeChar c ++ rest) = some c :: pieces rest := by
  obtain ⟨value, same⟩ : ∃ value, value = c.val.toNat := ⟨_, rfl⟩
  have back : Char.ofNat value = c := by rw [same]; exact Char.ofNat_toNat c
  have scalar : value < 0xd800 ∨ 0xdfff < value ∧ value < 0x110000 := same ▸ c.valid
  have byte (n : Nat) (small : n < 256) : (UInt8.ofNat n).toNat = n := by
    rw [UInt8.toNat_ofNat']
    omega
  have last := byte (value % 64 + 128) (by omega)
  have third := byte (value / 64 % 64 + 128) (by omega)
  have second := byte (value / 4096 % 64 + 128) (by omega)
  unfold String.utf8EncodeChar
  simp only [← same]
  split
  next one =>
    have lead := byte value (by omega)
    rw [List.singleton_append, pieces_one (by omega), lead, back]
  next =>
  split
  next two =>
    have lead := byte (value / 64 % 32 + 192) (by omega)
    have spelled : (value / 64 % 32 + 192) % 0x20 * 0x40 + (value % 64 + 128) % 0x40 = value := by omega
    rw [List.cons_append, List.singleton_append,
      pieces_two (by omega) (by omega) ⟨by omega, by omega⟩, lead, last, spelled, back]
  next =>
  split
  next three =>
    have lead := byte (value / 4096 % 16 + 224) (by omega)
    have spelled : ((value / 4096 % 16 + 224) % 0x10 * 0x40 + (value / 64 % 64 + 128) % 0x40) * 0x40 +
      (value % 64 + 128) % 0x40 = value := by omega
    rw [List.cons_append, List.cons_append, List.singleton_append,
      pieces_three (by omega) (by omega) ⟨by omega, by omega⟩ (by omega) (by omega) ⟨by omega, by omega⟩,
      lead, third, last, spelled, back]
  next four =>
    have lead := byte (value / 262144 % 8 + 240) (by omega)
    have spelled : (((value / 262144 % 8 + 240) % 0x8 * 0x40 + (value / 4096 % 64 + 128) % 0x40) * 0x40 +
      (value / 64 % 64 + 128) % 0x40) * 0x40 + (value % 64 + 128) % 0x40 = value := by omega
    rw [List.cons_append, List.cons_append, List.cons_append, List.singleton_append,
      pieces_four (by omega) (by omega) ⟨by omega, by omega⟩ (by omega) (by omega) ⟨by omega, by omega⟩
        ⟨by omega, by omega⟩, lead, second, third, last, spelled, back]

theorem pieces_encode (chars : List Char) : pieces (encode chars) = chars.map some := by
  induction chars with
  | nil => rw [encode, List.flatMap_nil, pieces, List.map_nil]
  | cons c chars ih =>
    rw [encode, List.flatMap_cons, pieces_utf8EncodeChar, List.map_cons, ← ih, encode]

theorem decode?_encode (chars : List Char) : decode? (encode chars) = some chars := by
  rw [decode?, pieces_encode]
  induction chars with
  | nil => rfl
  | cons c chars ih => simp [List.mapM_cons, ih]

end Utf8

theorem charOffset?_byteOffset {text : List Char} {offset : Nat} (inside : offset ≤ text.length) :
    charOffset? text (byteOffset text offset) = some offset := by
  have bytes : Utf8.encode text = Utf8.encode (text.take offset) ++ Utf8.encode (text.drop offset) := by
    rw [Utf8.encode, Utf8.encode, Utf8.encode, ← List.flatMap_append, List.take_append_drop]
  have begins : byteOffset text offset ≤ (Utf8.encode text).length := by
    rw [byteOffset, bytes, List.length_append]
    exact Nat.le_add_right _ _
  rw [charOffset?, if_pos begins, bytes, byteOffset, List.take_left, Utf8.decode?_encode, Option.map_some,
    List.length_take_of_le inside]

end GrammarFlow.Text
