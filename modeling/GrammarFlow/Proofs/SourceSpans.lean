import GrammarFlow.Text.Span

/-! Spans and the text in them. A part of an ASCII text is cut out of its bytes, any other part out of
its characters; both ways give the same. -/

namespace GrammarFlow

namespace Source

theorem length_ofList (name : String) (chars : List Char) :
    length ⟨name, String.ofList chars⟩ = chars.length := by
  rw [length, Source.chars, String.toList_ofList]

theorem chars_ofList (name : String) (chars : List Char) : Source.chars ⟨name, String.ofList chars⟩ = chars :=
  String.toList_ofList

theorem clampedSpan_start (source : Source) {start : Nat} (stop : Nat) (inside : start ≤ source.length) :
    (source.clampedSpan start stop).start = start := Nat.min_eq_left inside

theorem clampedSpan_length (source : Source) {start stop : Nat} (forward : start ≤ stop)
    (inside : stop ≤ source.length) : (source.clampedSpan start stop).length = stop - start := by
  simp only [clampedSpan]
  omega

theorem clampedSpan_stop (source : Source) {start stop : Nat} (forward : start ≤ stop) :
    (source.clampedSpan start stop).stop = min stop source.length := by
  simp only [clampedSpan, Span.stop]
  omega

theorem clampedSpan_stop_le (source : Source) {start stop : Nat} (forward : start ≤ stop) :
    (source.clampedSpan start stop).stop ≤ stop := by
  rw [clampedSpan_stop source forward]
  exact Nat.min_le_left stop source.length

theorem clampedSpan_eq {source : Source} {start length : Nat} (inside : start + length ≤ source.length) :
    source.clampedSpan start (start + length) = ⟨source, start, length, inside⟩ := by
  simp only [clampedSpan, Span.mk.injEq, true_and]
  omega

private theorem encode_of_ascii {chars : List Char} (ascii : ∀ c ∈ chars, c.toNat < 0x80) :
    Text.Utf8.encode chars = chars.map fun c => UInt8.ofNat c.toNat := by
  induction chars with
  | nil => rfl
  | cons c chars ih =>
    have one : c.val.toNat ≤ 127 := Nat.le_of_lt_succ (ascii c (by simp))
    have rest := ih fun d member => ascii d (by simp [member])
    rw [Text.Utf8.encode] at rest ⊢
    simp only [List.flatMap_cons, rest, String.utf8EncodeChar, if_pos one, List.map_cons, List.singleton_append]
    rfl

private theorem decode_ascii {c : Char} (ascii : c.toNat < 0x80) :
    Char.ofNat (UInt8.ofNat c.toNat).toNat = c := by
  rw [UInt8.toNat_ofNat', Nat.mod_eq_of_lt (by omega), Char.ofNat_toNat]

/-- Bounds beyond the end of a list leave out nothing more than it has. -/
private theorem drop_take_clamped (chars : List Char) (start length : Nat) :
    (chars.take (min (start + length) chars.length)).drop (min start (min (start + length) chars.length)) =
      (chars.drop start).take length := by
  rw [List.take_drop]
  by_cases inside : start ≤ chars.length
  · have first : min start (min (start + length) chars.length) = start := by omega
    have front : chars.take (min (start + length) chars.length) = chars.take (start + length) :=
      List.take_eq_take_iff.mpr (by omega)
    rw [first, front]
  · have first : min start (min (start + length) chars.length) = chars.length := by omega
    have short (count : Nat) : (chars.take count).length ≤ chars.length := List.length_take_le' count chars
    rw [first, List.drop_eq_nil_of_le (short _),
      List.drop_eq_nil_of_le (Nat.le_trans (short _) (Nat.le_of_not_le inside))]

theorem slice_chars (source : Source) (start length : Nat) :
    (source.slice start length).toList = (source.chars.drop start).take length := by
  rw [slice, String.toList_ofList]
  split
  next ascii =>
    have ascii : ∀ c ∈ source.chars, c.toNat < 0x80 := by simpa [isAscii] using ascii
    have kept : ∀ c ∈ (source.chars.take (min (start + length) source.chars.length)).drop
        (min start (min (start + length) source.chars.length)),
        Char.ofNat (UInt8.ofNat c.toNat).toNat = c :=
      fun c member => decode_ascii (ascii c (List.mem_of_mem_take (List.mem_of_mem_drop member)))
    simp only [sliceBytes, encode_of_ascii ascii, List.length_map, ← List.map_take, ← List.map_drop,
      List.map_map, Function.comp_def]
    rw [List.map_congr_left kept, List.map_id']
    exact drop_take_clamped source.chars start length
  · rfl

end Source

theorem Span.text_chars (span : Span) :
    span.text.toList = (span.source.chars.drop span.start).take span.length :=
  span.source.slice_chars span.start span.length

theorem Span.length_text (span : Span) : span.text.toList.length = span.length := by
  have := span.inside
  rw [text_chars, List.length_take, List.length_drop]
  simp only [Source.length] at this
  omega

def Source.HasAt (source : Source) (start : Nat) (text : String) : Prop :=
  start ≤ source.length ∧ text.toList <+: source.chars.drop start

instance (source : Source) (start : Nat) (text : String) : Decidable (source.HasAt start text) :=
  inferInstanceAs (Decidable (_ ∧ _))

section
variable {source : Source} {start : Nat} {token : String}

theorem Source.HasAt.inside (there : source.HasAt start token) : start + token.length ≤ source.length := by
  obtain ⟨reached, stands⟩ := there
  have := stands.length_le
  rw [List.length_drop, String.length_toList] at this
  rw [Source.length] at reached ⊢
  omega

theorem Source.HasAt.text (there : source.HasAt start token) :
    Span.text ⟨source, start, token.length, there.inside⟩ = token := by
  have read := List.prefix_iff_eq_take.mp there.2
  rw [String.length_toList] at read
  rw [← String.toList_inj, Span.text_chars]
  exact read.symm

end

end GrammarFlow
