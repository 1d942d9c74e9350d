import GrammarFlow.Proofs.BoundedReading
import GrammarFlow.Proofs.ClockPattern

/-!
Durations are read with patterns as they are read without. Of a number with a unit the pattern takes what the reader
takes: neither a blank nor the name of a unit goes on with the number.
-/

namespace GrammarFlow

namespace Duration

open Pattern Clock

section Decimals

structure IsDecimal (whole : List Char) (places : Option (List Char)) : Prop where
  whole : IsDigits 1 whole.length whole
  places : ∀ digits ∈ places, IsDigits 1 digits.length digits

theorem readDecimal?_chars {whole rest : List Char} {places : Option (List Char)} (decimal : IsDecimal whole places)
    (noDigit : ∀ c ∈ rest.head?, c.isDigit = false) (noPoint : ∀ c ∈ rest.head?, c ≠ '.') :
    readDecimal? (whole ++ (fractionChars places ++ rest)) =
      some (whole ++ places.getD [], (places.getD []).length, rest) := by
  have nonempty {digits : List Char} (isDigits : IsDigits 1 digits.length digits) : digits.isEmpty = false :=
    List.isEmpty_eq_false_iff.mpr (List.ne_nil_of_length_pos isDigits.enough)
  cases places with
  | none =>
    obtain ⟨front, behind⟩ := cut_exact decimal.whole.digits noDigit
    rw [readDecimal?, fractionChars, List.nil_append, front, behind, nonempty decimal.whole]
    cases rest with
    | nil => simp
    | cons c rest => simp [noPoint c rfl]
  | some digits =>
    have stops : ∀ c ∈ ('.' :: (digits ++ rest)).head?, c.isDigit = false := by
      rintro c ⟨⟩
      rfl
    have isPlaces := decimal.places digits rfl
    obtain ⟨front, behind⟩ := cut_exact decimal.whole.digits stops
    obtain ⟨first, later⟩ := cut_exact isPlaces.digits noDigit
    rw [readDecimal?, fractionChars, List.cons_append, front, behind]
    simp [nonempty decimal.whole, nonempty isPlaces, first, later]

theorem readDecimal?_eq_some {text digits rest : List Char} {count : Nat}
    (read : readDecimal? text = some (digits, count, rest)) :
    ∃ whole places, IsDecimal whole places ∧ text = whole ++ (fractionChars places ++ rest) ∧
      digits = whole ++ places.getD [] ∧ count = (places.getD []).length := by
  have isDigits {text : List Char} (some : ¬ (text.takeWhile Char.isDigit).isEmpty = true) :
      IsDigits 1 (text.takeWhile Char.isDigit).length (text.takeWhile Char.isDigit) := by
    rw [List.isEmpty_iff] at some
    exact ⟨List.length_pos_iff.mpr some, Nat.le_refl _, fun c member => List.mem_takeWhile_imp member⟩
  have parts (text : List Char) := List.takeWhile_append_dropWhile (p := Char.isDigit) (l := text)
  unfold readDecimal? at read
  dsimp only at read
  split at read
  next => cases read
  next number =>
    split at read
    next behind point =>
      split at read
      next => cases read
      next places =>
        cases read
        refine ⟨_, some (behind.takeWhile Char.isDigit), ⟨isDigits number, ?_⟩, ?_, rfl, rfl⟩
        · rintro digits ⟨⟩
          exact isDigits places
        · rw [fractionChars, List.cons_append, parts behind, ← point, parts text]
    next =>
      cases read
      exact ⟨_, none, ⟨isDigits number, by simp⟩, (parts text).symm, (List.append_nil _).symm, rfl⟩

end Decimals

section Suffixes

theorem mem_units_of_unit? {name : String} {nanoseconds : Nat} (named : unit? name = some nanoseconds) :
    name ∈ units := by
  unfold unit? at named
  split at named
  all_goals first | decide | cases named

theorem not_digit_of_blank {c : Char} (blank : Text.isBlank c = true) : CharSet.digit.holds c = false := by
  have apart : ∀ a ∈ Text.blanks, ∀ b ∈ (0x30, 0x39) :: Text.decimalDigits, a.2 < b.1 ∨ b.2 < a.1 := by decide +kernel
  obtain ⟨⟨low, high⟩, member, inside⟩ := List.any_eq_true.mp blank
  rw [Bool.and_eq_true, decide_eq_true_eq, decide_eq_true_eq] at inside
  have outside : ∀ b ∈ (0x30, 0x39) :: Text.decimalDigits, ¬ (b.1 ≤ c.toNat ∧ c.toNat ≤ b.2) := by
    intro b there between
    have := apart _ member b there
    dsimp only at this
    omega
  rw [CharSet.holds, Text.isDecimalDigit]
  split
  next => exact Bool.eq_false_iff.mpr fun digit => outside _ List.mem_cons_self (Char.isDigit_iff_toNat.mp digit)
  next =>
    refine List.any_eq_false.mpr fun b there => ?_
    simpa using outside b (List.mem_cons_of_mem _ there)

theorem head_of_unit {name : String} (isUnit : name ∈ units) :
    ∀ c ∈ name.toList.head?, Text.isBlank c = false ∧ CharSet.digit.holds c = false ∧ c ≠ '.' := by
  intro c first
  simp only [units, List.mem_cons, List.not_mem_nil, or_false] at isUnit
  rcases isUnit with rfl | rfl | rfl | rfl | rfl
  all_goals
    cases first
    exact ⟨rfl, rfl, by decide⟩

theorem head_of_suffix {blanks : List Char} {name : String} (blank : ∀ c ∈ blanks, Text.isBlank c = true)
    (isUnit : name ∈ units) : ∀ c ∈ (blanks ++ name.toList).head?, CharSet.digit.holds c = false ∧ c ≠ '.' := by
  intro c first
  cases blanks with
  | nil => exact (head_of_unit isUnit c first).2
  | cons d blanks =>
    obtain rfl : d = c := Option.some.inj first
    have isBlank := blank d List.mem_cons_self
    refine ⟨not_digit_of_blank isBlank, ?_⟩
    rintro rfl
    exact absurd isBlank (by decide)

theorem takes_unit {done : List Char} {name : String} (isUnit : name ∈ units) :
    (choices (units.map Pattern.text)).Takes done name.toList [] [] := by
  have apart : units.Pairwise fun first second => first.toList.head? ≠ second.toList.head? := by decide
  have nonempty : ∀ unit ∈ units, unit.toList ≠ [] := by decide
  obtain ⟨before, behind, split⟩ := List.append_of_mem isUnit
  rw [split] at apart nonempty
  rw [split, List.map_append, List.map_cons]
  refine Takes.choices ?_ (Takes.text name)
  intro other member
  obtain ⟨literal, earlier, rfl⟩ := List.mem_map.mp member
  have differs := (List.pairwise_append.mp apart).2.2 literal earlier name List.mem_cons_self
  obtain ⟨c, others, begins⟩ := List.exists_cons_of_ne_nil (nonempty literal (List.mem_append_left _ earlier))
  rw [begins] at differs
  exact Refuses.text begins (by simpa using differs.symm)

theorem takes_places {done rest : List Char} {places : Option (List Char)}
    (isPlaces : ∀ digits ∈ places, IsDigits 1 digits.length digits)
    (behind : ∀ c ∈ rest.head?, CharSet.digit.holds c = false ∧ c ≠ '.') :
    (sequence [.optional true (.sequence [.text ".", .digits])]).Takes done (fractionChars places) rest [] := by
  cases places with
  | none => exact Takes.skip (Refuses.cons (Refuses.text rfl fun point => (behind '.' point).2 rfl))
  | some places =>
    have isPlaces := isPlaces places rfl
    have nonempty : places ≠ [] := List.ne_nil_of_length_pos isPlaces.enough
    have digits : (sequence [Pattern.digits]).Takes (done ++ ".".toList) places rest [] :=
      Takes.greedy nonempty isPlaces.isFigures.figures fun c first => (behind c first).1
    exact ((Takes.text ".").cons digits).optional

theorem takes_value {done whole rest : List Char} {places : Option (List Char)} (decimal : IsDecimal whole places)
    (behind : ∀ c ∈ rest.head?, CharSet.digit.holds c = false ∧ c ≠ '.') :
    (Pattern.group "value" (.sequence [.digits, .optional true (.sequence [.text ".", .digits])])).Takes done
      (whole ++ fractionChars places) rest [⟨"value", done.length, whole ++ fractionChars places⟩] := by
  have outside : ∀ c ∈ (fractionChars places ++ rest).head?, CharSet.digit.holds c = false := by
    cases places with
    | none => exact fun c first => (behind c first).1
    | some places =>
      rintro c ⟨⟩
      rfl
  have digits : Pattern.digits.Takes done whole (fractionChars places ++ rest) [] :=
    Takes.greedy (List.ne_nil_of_length_pos decimal.whole.enough) decimal.whole.isFigures.figures outside
  exact (digits.cons (takes_places decimal.places behind)).group

theorem find?_suffix {whole blanks : List Char} {places : Option (List Char)} {name : String}
    (decimal : IsDecimal whole places) (blank : ∀ c ∈ blanks, Text.isBlank c = true) (isUnit : name ∈ units) :
    ∃ found, (wholly suffixParts).find? (whole ++ fractionChars places ++ (blanks ++ name.toList)) = some found ∧
      found.shown? "value" = some (whole ++ fractionChars places) ∧ found.shown? "unit" = some name.toList := by
  have stop {done : List Char} : (sequence [.anchor .textEnd]).Takes done [] [] [] :=
    Takes.cons (Takes.anchor rfl) Takes.nil
  have unit {done : List Char} : (sequence [.group "unit" (.choices (units.map .text)), .anchor .textEnd]).Takes done
      name.toList [] [⟨"unit", done.length, name.toList⟩] := by
    have named : (Pattern.group "unit" (.choices (units.map .text))).Takes done name.toList []
        [⟨"unit", done.length, name.toList⟩] := (takes_unit isUnit).group
    simpa using Takes.cons named stop
  have noBlank : ∀ c ∈ (name.toList ++ []).head?, CharSet.blank.holds c = false := by
    rw [List.append_nil]
    exact fun c first => (head_of_unit isUnit c first).1
  have takes : (wholly suffixParts).Takes [] ([] ++ (whole ++ fractionChars places ++ (blanks ++ name.toList))) [] _ :=
    Takes.cons (Takes.anchor rfl) <|
    Takes.cons (takes_value decimal (by simpa using head_of_suffix blank isUnit)) <|
    Takes.cons (Takes.star blank noBlank) unit
  exact ⟨_, find?_of_takes takes, by simp [Match.shown?, Match.capture?], by simp [Match.shown?, Match.capture?]⟩

theorem suffix_of_find? {text : List Char} {found : Match} (there : (wholly suffixParts).find? text = some found) :
    ∃ value blanks, ∃ name ∈ units, text = value ++ (blanks ++ name.toList) ∧
      (∀ c ∈ blanks, Text.isBlank c = true) ∧ found.shown? "value" = some value ∧
      found.shown? "unit" = some name.toList := by
  have reads : (sequence suffixParts).Reads 0 text found.captures := reads_of_find? there
  obtain ⟨value, _, _, _, rfl, captures, valued, reads⟩ := reads.sequence_cons
  obtain ⟨blanks, _, _, _, rfl, rfl, blanked, reads⟩ := reads.sequence_cons
  obtain ⟨unit, _, _, _, rfl, rfl, named, reads⟩ := reads.sequence_cons
  cases reads
  have only : (Pattern.star true (.one .blank)).Only fun c => Text.isBlank c = true := fun _ holds => holds
  obtain rfl := blanked.captures_nothing rfl
  cases valued with
  | group valued =>
    obtain rfl := valued.captures_nothing rfl
    cases named with
    | group named =>
      obtain rfl := named.captures_nothing rfl
      have some : units.map Pattern.text ≠ [] := List.cons_ne_nil _ _
      obtain ⟨option, member, named⟩ := named.choices some
      obtain ⟨name, isUnit, rfl⟩ := List.mem_map.mp member
      obtain ⟨rfl, -⟩ := named.text
      refine ⟨value, blanks, name, isUnit, by simp, blanked.characters only, ?_, ?_⟩
      · simp [Match.shown?, Match.capture?, captures]
      · simp [Match.shown?, Match.capture?, captures]

section Values
variable {whole blanks : List Char} {places : Option (List Char)} {name : String} {found : Match}

theorem readSuffixed?_chars (decimal : IsDecimal whole places) (blank : ∀ c ∈ blanks, Text.isBlank c = true)
    (isUnit : name ∈ units) :
    readSuffixed? (whole ++ (fractionChars places ++ (blanks ++ name.toList))) =
      (unit? name).bind (ofDecimal? (whole ++ places.getD []) (places.getD []).length) := by
  have behind := head_of_suffix blank isUnit
  have noDigit : ∀ c ∈ (blanks ++ name.toList).head?, c.isDigit = false := by
    intro c first
    exact Bool.eq_false_iff.mpr fun digit =>
      Bool.eq_false_iff.mp (behind c first).1 (CharSet.digit_holds_of_isDigit digit)
  have number := readDecimal?_chars decimal noDigit fun c first => (behind c first).2
  have unit := (cut_exact blank fun c first => (head_of_unit isUnit c first).1).2
  unfold readSuffixed?
  rw [number, Option.bind_eq_bind, Option.bind_some]
  dsimp only
  rw [unit, String.ofList_toList]
  rfl

theorem ofSuffix?_decimal (decimal : IsDecimal whole places)
    (valued : found.shown? "value" = some (whole ++ fractionChars places))
    (named : found.shown? "unit" = some name.toList) :
    ofSuffix? found = (unit? name).bind (ofDecimal? (whole ++ places.getD []) (places.getD []).length) := by
  have number : readDecimal? (whole ++ fractionChars places) =
      some (whole ++ places.getD [], (places.getD []).length, []) := by
    simpa using @readDecimal?_chars whole [] places decimal (by simp) (by simp)
  unfold ofSuffix?
  rw [valued, named, Option.bind_eq_bind, Option.bind_some, Option.bind_eq_bind, Option.bind_some, Function.comp_apply,
    String.ofList_toList, number]

/-- A match that has a value shows a decimal number in ASCII digits. -/
theorem decimal_of_ofSuffix? {duration : Duration} {value : List Char} (read : ofSuffix? found = some duration)
    (valued : found.shown? "value" = some value) :
    ∃ whole places, IsDecimal whole places ∧ value = whole ++ fractionChars places := by
  unfold ofSuffix? at read
  rw [valued, Option.bind_eq_bind, Option.bind_some] at read
  obtain ⟨unit, -, read⟩ := Option.bind_eq_some_iff.mp read
  split at read
  next digits places number =>
    obtain ⟨whole, places, decimal, rfl, -⟩ := readDecimal?_eq_some number
    exact ⟨whole, places, decimal, by rw [List.append_nil]⟩
  next => cases read

end Values

/-- A number with a unit is read from a match of its pattern just as it is read without one. -/
theorem matchedSuffix_eq (text : List Char) :
    ((wholly suffixParts).find? text).bind ofSuffix? = readSuffixed? text := by
  ext duration
  constructor
  · intro read
    obtain ⟨found, there, valued⟩ := Option.bind_eq_some_iff.mp read
    obtain ⟨value, blanks, name, isUnit, rfl, blank, shown, named⟩ := suffix_of_find? there
    obtain ⟨whole, places, decimal, rfl⟩ := decimal_of_ofSuffix? valued shown
    rw [ofSuffix?_decimal decimal shown named] at valued
    rw [List.append_assoc, readSuffixed?_chars decimal blank isUnit]
    exact valued
  · intro read
    obtain ⟨⟨digits, count, rest⟩, number, valued⟩ := Option.bind_eq_some_iff.mp read
    obtain ⟨unit, named, -⟩ := Option.bind_eq_some_iff.mp valued
    obtain ⟨whole, places, decimal, rfl, -⟩ := readDecimal?_eq_some number
    have isUnit := mem_units_of_unit? named
    have blank : ∀ c ∈ rest.takeWhile Text.isBlank, Text.isBlank c = true := fun c => List.mem_takeWhile_imp
    have parted : rest = rest.takeWhile Text.isBlank ++ (String.ofList (rest.dropWhile Text.isBlank)).toList := by
      rw [String.toList_ofList, List.takeWhile_append_dropWhile]
    obtain ⟨found, there, value, unit⟩ := find?_suffix decimal blank isUnit
    rw [parted, readSuffixed?_chars decimal blank isUnit] at read
    rw [parted, ← List.append_assoc, there, Option.bind_some, ofSuffix?_decimal decimal value unit]
    exact read

end Suffixes

theorem readMatched?_eq (payload : String) : readMatched? payload = read? payload := by
  simp only [readMatched?, read?, matchedClock_eq, matchedSuffix_eq]

/-- A text with a colon in it is read as a duration just when it is a clock between blanks, and the duration is the
one that the clock shows. Reading by patterns comes to the same, and 64 bits are enough for it. -/
theorem clock_read_exactly {payload : String} (colon : ':' ∈ payload.toList)
    (fits : ∀ clock : Clock, clock.chars = Text.trimChars payload.toList → clock.wholeSeconds < Text.wordBound)
    (duration : Duration) :
    (read? payload = some duration ↔
      ∃ clock : Clock, clock.chars = Text.trimChars payload.toList ∧ clock.duration = duration) ∧
    readMatched? payload = read? payload ∧ (checkedRead? payload).run = .ok (read? payload) := by
  have alone : read? payload = readClock? (Text.trimChars payload.toList) := by
    rw [read?, readSuffixed?_of_colon (colon_mem_trimChars colon), Option.or_none]
  refine ⟨?_, readMatched?_eq payload, (exact_checkedRead? payload).within ?held⟩
  case held =>
    rintro ⟨time, shown, exceeds⟩
    obtain ⟨clock, written, -, rfl⟩ := readTime?_eq_some shown
    exact Nat.not_le.mpr (fits clock written) exceeds
  rw [alone]
  constructor
  · intro read
    exact readClock?_eq_some read
  · rintro ⟨clock, written, rfl⟩
    rw [← written]
    refine readClock?_chars (Nat.lt_of_le_of_lt ?_ (fits clock written))
    unfold wholeSeconds
    omega

/-- A day, two hours and some, between blanks. -/
theorem day_clock_read :
    let payload := " 1.02:03:04.5\n"
    read? payload = some ⟨93784500000000⟩ ∧ readMatched? payload = some ⟨93784500000000⟩ ∧
      (checkedRead? payload).run = .ok (some ⟨93784500000000⟩) := by
  intro payload
  have fits : ∀ clock : Clock, clock.chars = Text.trimChars payload.toList → clock.wholeSeconds < Text.wordBound := by
    intro clock written
    refine clock.wholeSeconds_lt ?_
    rw [written]
    decide
  let clock : Clock := ⟨some ['1'], ['0', '2'], ['0', '3'], ['0', '4'], some ['5'], by decide, by decide, by decide,
    by decide, by decide, by decide, by decide⟩
  obtain ⟨exactly, same, computed⟩ := clock_read_exactly (by decide) fits ⟨93784500000000⟩
  have read := exactly.mpr ⟨clock, by decide, by decide⟩
  exact ⟨read, same.trans read, computed.trans (congrArg Except.ok read)⟩

end Duration

end GrammarFlow
