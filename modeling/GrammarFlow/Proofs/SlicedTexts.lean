import GrammarFlow.Proofs.LineIndex
import GrammarFlow.Proofs.SourceSpans
import GrammarFlow.Text.WordSlice

/-! A part of a text, cut out by numbers of 64 bits, has the characters that dropping and taking give, with one
exception: a part of an ASCII text is cut out up to a sum, and is lost if 64 bits do not hold it. Within a span
the sum is always held, so the text of a span is whole and adjacent spans have the text of their union. -/

namespace GrammarFlow

namespace Text

section
variable {overflow : Overflow} {a b : UInt64}

theorem SumFits.toNat_add (fits : SumFits a b) : (a + b).toNat = a.toNat + b.toNat := by
  rw [UInt64.toNat_add]
  exact Nat.mod_eq_of_lt fits

/-- A sum that wraps is below its first number. -/
theorem toNat_add_lt (wraps : ¬SumFits a b) : (a + b).toNat < a.toNat := by
  have left := a.toNat_lt
  have right := b.toNat_lt
  rw [SumFits, wordBound] at wraps
  rw [UInt64.toNat_add]
  omega

theorem pos_of_not_sumFits (wraps : ¬SumFits a b) : 0 < b.toNat := by
  have left := a.toNat_lt
  rw [SumFits, wordBound] at wraps
  omega

theorem Overflow.add?_of_sumFits (fits : SumFits a b) : overflow.add? a b = some (a + b) := if_pos (.inl fits)

theorem Overflow.refused_add? (wraps : ¬SumFits a b) : refused.add? a b = none := if_neg (by simp [wraps])

theorem Overflow.wrapped_add? (a b : UInt64) : wrapped.add? a b = some (a + b) := if_pos (.inr rfl)

end

end Text

namespace Source

variable {source : Source} {overflow : Text.Overflow} {start length : UInt64}

theorem slice_eq (source : Source) (start length : Nat) :
    source.slice start length = String.ofList ((source.chars.drop start).take length) := by
  rw [← slice_chars, String.ofList_toList]

theorem length_slice (source : Source) (start length : Nat) :
    (source.slice start length).length = min length (source.length - start) := by
  rw [slice_eq, String.length_ofList, List.length_take, List.length_drop]
  rfl

theorem slice?_of_other (other : source.isAscii = false) :
    source.slice? overflow start length = some (source.slice start.toNat length.toNat) := by
  simp only [slice?, slice, other, Bool.false_eq_true, if_false]

theorem slice?_of_sumFits (fits : Text.SumFits start length) :
    source.slice? overflow start length = some (source.slice start.toNat length.toNat) := by
  cases ascii : source.isAscii with
  | false => exact slice?_of_other ascii
  | true =>
    simp only [slice?, slice, ascii, if_true, sliceBytes?, Text.Overflow.add?_of_sumFits fits, Option.bind_eq_bind,
      Option.bind_some, fits.toNat_add]
    rfl

theorem slice?_refused (ascii : source.isAscii = true) (wraps : ¬Text.SumFits start length) :
    source.slice? .refused start length = none := by
  simp only [slice?, ascii, if_true, sliceBytes?, Text.Overflow.refused_add? wraps]
  rfl

/-- A part that would stop at a sum that wraps stops in front of its start. -/
theorem slice?_wrapped (ascii : source.isAscii = true) (wraps : ¬Text.SumFits start length) :
    source.slice? .wrapped start length = some "" := by
  have below := Text.toNat_add_lt wraps
  have nothing (bytes : List UInt8) : (bytes.take (min (start + length).toNat bytes.length)).drop
      (min start.toNat (min (start + length).toNat bytes.length)) = [] := by
    refine List.drop_eq_nil_of_le (Nat.le_trans (List.length_take_le _ _) ?_)
    omega
  simp only [slice?, ascii, if_true, sliceBytes?, Text.Overflow.wrapped_add?, Option.bind_eq_bind, Option.bind_some,
    nothing, List.map_nil]
  rfl

theorem slice?_eq_slice_iff (source : Source) (overflow : Text.Overflow) (start length : UInt64) :
    source.slice? overflow start length = some (source.slice start.toNat length.toNat) ↔
      (source.isAscii = true →
        Text.SumFits start length ∨ overflow = .wrapped ∧ source.length ≤ start.toNat) := by
  by_cases fits : Text.SumFits start length
  · exact iff_of_true (slice?_of_sumFits fits) fun _ => .inl fits
  cases ascii : source.isAscii with
  | false => exact iff_of_true (slice?_of_other ascii) nofun
  | true =>
    rw [eq_self_iff_true, true_imp_iff, or_iff_right fits]
    cases overflow with
    | refused => exact iff_of_false (by rw [slice?_refused ascii fits]; nofun) nofun
    | wrapped =>
      have asked := Text.pos_of_not_sumFits fits
      have empty : source.slice start.toNat length.toNat = "" ↔ source.length ≤ start.toNat := by
        rw [← String.length_eq_zero_iff, length_slice]
        omega
      rw [slice?_wrapped ascii fits, Option.some_inj, eq_comm, empty, and_iff_right rfl]

/-- A range that the check of a span lets through ends in the text, unless its sum has wrapped. -/
theorem inside_of_admits (admitted : source.admits overflow start length = true) (fits : Text.SumFits start length) :
    start.toNat + length.toNat ≤ source.length := by
  rw [admits, Text.Overflow.add?_of_sumFits fits, Option.any_some, decide_eq_true_iff, fits.toNat_add] at admitted
  exact admitted

/-- The text of a range that the check lets through is as long as the range exactly if its sum has not wrapped. -/
theorem length_slice?_iff (addressable : source.Addressable) (admitted : source.admits overflow start length = true) :
    (∃ text, source.slice? overflow start length = some text ∧ text.length = length.toNat) ↔
      Text.SumFits start length := by
  refine ⟨fun ⟨text, read, whole⟩ => Decidable.byContradiction fun wraps => ?_, fun fits => ?_⟩
  · have asked := Text.pos_of_not_sumFits wraps
    cases ascii : source.isAscii with
    | false =>
      rw [slice?_of_other ascii, Option.some_inj] at read
      rw [← read, length_slice] at whole
      rw [Addressable] at addressable
      rw [Text.SumFits] at wraps
      omega
    | true =>
      cases overflow with
      | refused => cases read.symm.trans (slice?_refused ascii wraps)
      | wrapped =>
        cases read.symm.trans (slice?_wrapped ascii wraps)
        exact absurd whole (Nat.ne_of_lt asked)
  · have inside := inside_of_admits admitted fits
    refine ⟨_, slice?_of_sumFits fits, ?_⟩
    rw [length_slice]
    omega

end Source

namespace Span

theorem contains_iff (span : Span) (offset : Nat) :
    span.contains offset = true ↔ span.start ≤ offset ∧ offset < span.stop := by
  simp only [contains, Bool.and_eq_true, decide_eq_true_eq]

def Adjacent (first second : Span) : Prop := first.source = second.source ∧ first.stop = second.start

def join (first second : Span) (adjacent : first.Adjacent second) : Span where
  source := first.source
  start := first.start
  length := first.length + second.length
  inside := by
    obtain ⟨same, meets⟩ := adjacent
    have inside := second.inside
    rw [← same, ← meets, stop, Nat.add_assoc] at inside
    exact inside

variable {first second : Span} (adjacent : first.Adjacent second)

theorem contains_join (offset : Nat) :
    (first.join second adjacent).contains offset = (first.contains offset || second.contains offset) := by
  have meets := adjacent.2
  rw [Bool.eq_iff_iff, Bool.or_eq_true, contains_iff, contains_iff, contains_iff]
  simp only [join, stop] at meets ⊢
  omega

theorem text_join : (first.join second adjacent).text = first.text ++ second.text := by
  rw [← String.toList_inj, String.toList_append, text_chars, text_chars, text_chars, ← adjacent.1, ← adjacent.2]
  simp only [join, stop]
  rw [List.take_add, List.drop_drop]

/-- A span is let through and read whole: the characters from its start on, as many as its length says, and with
those of an adjacent span all that is in either of them. -/
structure ReadWhole (span : Span) (overflow : Text.Overflow) : Prop where
  admitted : span.source.admits overflow (.ofNat span.start) (.ofNat span.length) = true
  read : span.text? overflow = some span.text
  chars : span.text.toList = (span.source.chars.drop span.start).take span.length
  length : span.text.length = span.length
  covers : ∀ next (adjacent : span.Adjacent next) offset,
    (span.join next adjacent).contains offset = (span.contains offset || next.contains offset)
  joined : ∀ next (adjacent : span.Adjacent next),
    (span.join next adjacent).text? overflow = some (span.text ++ next.text)

variable {span : Span} (addressable : span.source.Addressable) (overflow : Text.Overflow)

include addressable

theorem toNat_words :
    (UInt64.ofNat span.start).toNat = span.start ∧ (UInt64.ofNat span.length).toNat = span.length := by
  have inside := span.inside
  have held : span.source.length < UInt64.size := Nat.lt_of_succ_lt addressable
  exact ⟨UInt64.toNat_ofNat_of_lt' (by omega), UInt64.toNat_ofNat_of_lt' (by omega)⟩

theorem sumFits_words : Text.SumFits (.ofNat span.start) (.ofNat span.length) := by
  have inside := span.inside
  obtain ⟨start, length⟩ := toNat_words addressable
  rw [Text.SumFits, start, length]
  exact Nat.lt_of_le_of_lt inside (Nat.lt_of_succ_lt addressable)

theorem text?_eq : span.text? overflow = some span.text := by
  obtain ⟨start, length⟩ := toNat_words addressable
  rw [text?, Source.slice?_of_sumFits (sumFits_words addressable), start, length]
  rfl

theorem admits_words : span.source.admits overflow (.ofNat span.start) (.ofNat span.length) = true := by
  have fits := sumFits_words addressable
  obtain ⟨start, length⟩ := toNat_words addressable
  rw [Source.admits, Text.Overflow.add?_of_sumFits fits, Option.any_some, decide_eq_true_iff, fits.toNat_add, start,
    length]
  exact span.inside

theorem readWhole : span.ReadWhole overflow where
  admitted := admits_words addressable overflow
  read := text?_eq addressable overflow
  chars := span.text_chars
  length := String.length_toList.symm.trans span.length_text
  covers _ adjacent := contains_join adjacent
  joined next adjacent := text_join adjacent ▸ @text?_eq (span.join next adjacent) addressable overflow

end Span

namespace Source

/-- A part of a text has the characters that dropping and taking give exactly if it is not cut out up to a sum that
64 bits do not hold, or such a sum wraps where nothing is there to be lost. In a text that is in memory, a range
that is let through has as many characters as it is long exactly if its sum is held, and every span is read whole. -/
theorem slice?_agrees_iff (source : Source) (overflow : Text.Overflow) :
    (∀ start length : UInt64,
      source.slice? overflow start length =
          some (String.ofList ((source.chars.drop start.toNat).take length.toNat)) ↔
        (source.isAscii = true →
          Text.SumFits start length ∨ overflow = .wrapped ∧ source.length ≤ start.toNat)) ∧
    (source.Addressable →
      (∀ start length : UInt64, source.admits overflow start length = true →
        ((∃ text, source.slice? overflow start length = some text ∧ text.length = length.toNat) ↔
          Text.SumFits start length)) ∧
      ∀ span : Span, span.source = source → span.ReadWhole overflow) := by
  refine ⟨fun start length => ?_, fun addressable => ⟨fun start length => length_slice?_iff addressable, ?_⟩⟩
  · rw [← slice_eq]
    exact source.slice?_eq_slice_iff overflow start length
  · rintro span rfl
    exact Span.readWhole addressable overflow

/-- Two spans that meet in front of the second line, and a part that is asked for beyond the end. -/
theorem slices_of_two_lines :
    let source : Source := ⟨"t", "ab\ncd"⟩
    let first : Span := ⟨source, 1, 2, by decide⟩
    let second : Span := ⟨source, 3, 2, by decide⟩
    source.Addressable ∧ source.admits .refused 3 2 = true ∧
      source.slice? .refused 3 9 = some "cd" ∧
      (∃ text, source.slice? .refused 3 2 = some text ∧ text.length = 2) ∧
      first.text? .refused = some "b\n" ∧
      ∃ adjacent : first.Adjacent second, (first.join second adjacent).text? .refused = some "b\ncd" := by
  intro source first second
  have addressable : source.Addressable := by decide
  have admitted : source.admits .refused 3 2 = true := by decide
  have adjacent : first.Adjacent second := ⟨rfl, rfl⟩
  obtain ⟨parts, spans⟩ := slice?_agrees_iff source .refused
  obtain ⟨ranges, whole⟩ := spans addressable
  have rest : String.ofList ((source.chars.drop 3).take 9) = "cd" := by decide +kernel
  have lines : first.text = "b\n" ∧ second.text = "cd" := by decide +kernel
  have beyond := (parts 3 9).mpr fun _ => .inl (by decide)
  have read := (whole first rfl).read
  have joined := (whole first rfl).joined second adjacent
  rw [lines.1] at read
  rw [lines.1, lines.2] at joined
  exact ⟨addressable, admitted, beyond.trans (congrArg some rest), (ranges 3 2 admitted).mpr (by decide), read,
    adjacent, joined⟩

/-- With the greatest length, all of an ASCII text behind its first character is lost, or nothing is given at all.
With another character in the text it is there. -/
theorem greatest_length_loses_text :
    let length : UInt64 := 0xffffffffffffffff
    String.ofList (((Source.mk "t" "abc").chars.drop 1).take length.toNat) = "bc" ∧
      Source.slice? ⟨"t", "abc"⟩ .wrapped 1 length = some "" ∧
      Source.slice? ⟨"t", "abc"⟩ .refused 1 length = none ∧
      ∀ overflow, Source.slice? ⟨"t", "äbc"⟩ overflow 1 length = some "bc" := by
  refine ⟨by decide +kernel, by decide +kernel, by decide +kernel, fun overflow => ?_⟩
  cases overflow <;> decide +kernel

end Source

end GrammarFlow
