import GrammarFlow.Proofs.ClockDurations
import GrammarFlow.Proofs.ReportReading
import GrammarFlow.Proofs.WholeTexts
import GrammarFlow.Transcript.DurationPatterns

/-!
A clock is read from a match of its pattern as it is read without one. The pattern matches more than what is read: its
digits are those of any script, and the numbers that are read from them afterwards turn away all but the ASCII ones.
-/

namespace GrammarFlow

namespace Duration

open Pattern Clock

section Figures

/-- Digits of any script, at least and at most so many. -/
structure IsFigures (least most : Nat) (text : List Char) : Prop where
  enough : least ≤ text.length
  notMore : text.length ≤ most
  figures : ∀ c ∈ text, CharSet.digit.holds c = true

variable {least most value : Nat} {text : List Char}

theorem IsDigits.isFigures (digits : IsDigits least most text) : IsFigures least most text where
  enough := digits.enough
  notMore := digits.notMore
  figures c member := CharSet.digit_holds_of_isDigit (digits.digits c member)

theorem IsFigures.not_mem {c : Char} (figures : IsFigures least most text) (other : CharSet.digit.holds c = false) :
    c ∉ text := by
  intro member
  rw [figures.figures c member] at other
  cases other

theorem readNumber?_unsigned (unsigned : '+' ∉ text) : ReportFormat.readNumber? text =
    if text.isEmpty || !text.all Char.isDigit || Text.wordBound ≤ digitsValue text then none
    else some (digitsValue text) := by
  unfold ReportFormat.readNumber?
  split
  next => exact absurd List.mem_cons_self unsigned
  next => rfl

/-- Figures are a number only if they are ASCII digits. -/
theorem IsFigures.readNumber?_eq_some_iff (figures : IsFigures (least + 1) most text) :
    ReportFormat.readNumber? text = some value ↔
      IsDigits (least + 1) most text ∧ digitsValue text = value ∧ value < Text.wordBound := by
  have nonempty : text.isEmpty = false :=
    List.isEmpty_eq_false_iff.mpr (List.ne_nil_of_length_pos (Nat.lt_of_lt_of_le least.succ_pos figures.enough))
  have shape : IsDigits (least + 1) most text ↔ text.all Char.isDigit = true := by
    rw [isDigits_iff]
    exact ⟨fun digits => digits.2.2, fun digits => ⟨figures.enough, figures.notMore, digits⟩⟩
  rw [readNumber?_unsigned (figures.not_mem rfl), shape, nonempty]
  constructor
  · intro read
    split at read
    next => cases read
    next fits =>
      obtain rfl := Option.some.inj read
      simpa using fits
  · rintro ⟨digits, rfl, fits⟩
    exact if_neg (by simp [digits, fits])

/-- Zeros behind a number scale it. -/
theorem digitsValue_zeros (digits : List Char) (count : Nat) :
    digitsValue (digits ++ List.replicate count '0') = digitsValue digits * Nat.pow 10 count := by
  simp [digitsValue, Nat.ofDigitChars_append, Nat.ofDigitChars_replicate_zero, Nat.mul_comm]

theorem number?_eq_some_iff {part : Option (List Char)} {number : Nat}
    (figures : ∀ digits ∈ part, IsFigures 1 digits.length digits) :
    number? part = some number ↔
      (∀ digits ∈ part, IsDigits 1 digits.length digits) ∧ dayCount part = number ∧ number < Text.wordBound := by
  cases part with
  | none =>
    constructor
    · rintro ⟨⟩
      exact ⟨by simp, rfl, by decide⟩
    · rintro ⟨-, rfl, -⟩
      rfl
  | some digits =>
    simp [number?, (figures digits rfl).readNumber?_eq_some_iff, dayCount]

theorem ticks?_digits_iff {digits : List Char} {ticks : Nat} (figures : IsFigures 1 fractionDigits digits) :
    ticks? (some digits) = some ticks ↔ IsDigits 1 fractionDigits digits ∧ fractionSteps (some digits) = ticks := by
  have zero : ∀ c ∈ List.replicate (fractionDigits - digits.length) '0', c = '0' := fun c => List.eq_of_mem_replicate
  have length : (digits ++ List.replicate (fractionDigits - digits.length) '0').length = fractionDigits := by
    rw [List.length_append, List.length_replicate, Nat.add_sub_cancel' figures.notMore]
  have filled : IsFigures (0 + 1) fractionDigits (digits ++ List.replicate (fractionDigits - digits.length) '0') := by
    refine ⟨by rw [length]; decide, Nat.le_of_eq length, List.forall_mem_append.mpr ⟨figures.figures, ?_⟩⟩
    exact fun c member => zero c member ▸ rfl
  rw [ticks?, filled.readNumber?_eq_some_iff, digitsValue_zeros]
  constructor
  · rintro ⟨all, counted, -⟩
    exact ⟨⟨figures.enough, figures.notMore, (List.forall_mem_append.mp all.digits).1⟩, counted⟩
  · rintro ⟨ascii, counted⟩
    have all : IsDigits (0 + 1) fractionDigits (digits ++ List.replicate (fractionDigits - digits.length) '0') := by
      refine ⟨filled.enough, filled.notMore, List.forall_mem_append.mpr ⟨ascii.digits, ?_⟩⟩
      exact fun c member => zero c member ▸ rfl
    refine ⟨all, counted, ?_⟩
    have few := Nat.lt_trans all.value_lt (by decide : Nat.pow 10 fractionDigits < Text.wordBound)
    rw [digitsValue_zeros] at few
    exact counted ▸ few

theorem ticks?_eq_some_iff {fraction : Option (List Char)} {ticks : Nat}
    (figures : ∀ digits ∈ fraction, IsFigures 1 fractionDigits digits) :
    ticks? fraction = some ticks ↔
      (∀ digits ∈ fraction, IsDigits 1 fractionDigits digits) ∧ fractionSteps fraction = ticks := by
  cases fraction with
  | none => simp [ticks?, fractionSteps]
  | some digits => simpa using ticks?_digits_iff (figures digits rfl)

end Figures

structure ShowsClock (found : Match) (days : Option (List Char)) (hours minutes seconds : List Char)
    (fraction : Option (List Char)) : Prop where
  days : found.shown? "days" = days
  hours : found.shown? "hours" = some hours
  minutes : found.shown? "minutes" = some minutes
  seconds : found.shown? "seconds" = some seconds
  fraction : found.shown? "fraction" = fraction

section Taken

def captured (name : String) (start : Nat) : Option (List Char) → List Capture
  | none => []
  | some digits => [⟨name, start, digits⟩]

theorem takes_group {name : String} {least most : Nat} {done digits rest : List Char}
    (isDigits : IsDigits least most digits) (outside : ∀ c ∈ rest.head?, CharSet.digit.holds c = false) :
    (Pattern.group name (.between true least (some most) (.one .digit))).Takes done digits rest
      [⟨name, done.length, digits⟩] :=
  (Takes.between isDigits.enough isDigits.notMore isDigits.isFigures.figures outside).group

/-- The point of a day count and the colon behind the hours are not mistaken for each other. -/
theorem point_ne_colon {digits hours rest later : List Char} (noColon : ':' ∉ digits) (noPoint : '.' ∉ hours) :
    digits ++ '.' :: rest ≠ hours ++ ':' :: later := by
  intro same
  rcases List.append_eq_append_iff.mp same with ⟨more, rfl, behind⟩ | ⟨more, rfl, behind⟩
  · cases more with
    | nil => cases behind
    | cons c more =>
      cases behind
      exact noPoint (by simp)
  · cases more with
    | nil => cases behind
    | cons c more =>
      cases behind
      exact noColon (by simp)

theorem takes_days {days : Option (List Char)} {hours rest : List Char}
    (isDays : ∀ digits ∈ days, IsDigits 1 digits.length digits) (isHours : IsDigits 1 2 hours) :
    (Pattern.optional true (.sequence [.group "days" .digits, .text "."])).Takes [] (dayChars days)
      (hours ++ ':' :: rest) (captured "days" 0 days) := by
  cases days with
  | some digits =>
    have isDays := isDays digits rfl
    have nonempty : digits ≠ [] := List.ne_nil_of_length_pos isDays.enough
    refine Takes.optional ?_
    exact Takes.cons (Takes.group (Takes.greedy nonempty isDays.isFigures.figures (by rintro c ⟨⟩; rfl)))
      (Takes.cons (Takes.text ".") Takes.nil)
  | none =>
    refine Takes.skip (Refuses.of_reads ?_)
    rintro piece gained reads ⟨later, begins⟩
    obtain ⟨digits, point, _, _, rfl, rfl, days, reads⟩ := reads.sequence_cons
    obtain ⟨rfl, -⟩ := reads.text
    have noColon : ':' ∉ digits := by
      have only : (Pattern.group "days" .digits).Only (· ≠ ':') := by
        rintro c holds rfl
        cases holds
      exact fun member => days.characters only ':' member rfl
    refine point_ne_colon noColon (isHours.not_mem (c := '.') rfl) (?_ : _ ++ '.' :: later = hours ++ ':' :: rest)
    simpa using begins

theorem takes_fraction {done : List Char} {fraction : Option (List Char)}
    (isFraction : ∀ digits ∈ fraction, IsDigits 1 fractionDigits digits) :
    (sequence [.optional true (.sequence [.text ".",
      .group "fraction" (.between true 1 (some fractionDigits) (.one .digit))]), .anchor .textEnd]).Takes done
        (fractionChars fraction) [] (captured "fraction" (done.length + 1) fraction) := by
  have optional : (Pattern.optional true (.sequence [.text ".",
      .group "fraction" (.between true 1 (some fractionDigits) (.one .digit))])).Takes done
        (fractionChars fraction ++ []) [] (captured "fraction" (done.length + 1) fraction) := by
    cases fraction with
    | some digits =>
      have point : (Pattern.text ".").Takes done ['.'] (digits ++ []) [] := Takes.text "."
      have behind : (sequence [.group "fraction" (.between true 1 (some fractionDigits) (.one .digit))]).Takes
          (done ++ ['.']) digits [] [⟨"fraction", (done ++ ['.']).length, digits⟩] :=
        takes_group (isFraction digits rfl) (by simp)
      simpa [fractionChars, captured] using (point.cons behind).optional
    | none => exact Takes.skip (Refuses.cons (Refuses.text rfl (by simp)))
  have stop : (sequence [.anchor .textEnd]).Takes (done ++ fractionChars fraction) [] [] [] :=
    Takes.cons (Takes.anchor rfl) Takes.nil
  rw [List.append_nil] at optional
  simpa using Takes.cons optional stop

theorem find?_clock (clock : Clock) : ∃ found, (wholly clockParts).find? clock.chars = some found ∧
    ShowsClock found clock.days clock.hours clock.minutes clock.seconds clock.fraction := by
  have written : clock.chars = [] ++ (dayChars clock.days ++ (clock.hours ++ (":".toList ++ (clock.minutes ++
      (":".toList ++ (clock.seconds ++ fractionChars clock.fraction)))))) := by
    simp [chars]
  have outside : ∀ c ∈ (fractionChars clock.fraction ++ []).head?, CharSet.digit.holds c = false := by
    cases clock.fraction with
    | none => simp [fractionChars]
    | some digits =>
      rintro c ⟨⟩
      rfl
  have takes : (wholly clockParts).Takes [] clock.chars [] _ :=
    written ▸ Takes.cons (Takes.anchor rfl) <|
    Takes.cons (by simpa using takes_days clock.daysDigits clock.hoursDigits) <|
    Takes.cons (takes_group clock.hoursDigits (by rintro c ⟨⟩; rfl)) <|
    Takes.cons (Takes.text ":") <|
    Takes.cons (takes_group clock.minutesDigits (by rintro c ⟨⟩; rfl)) <|
    Takes.cons (Takes.text ":") <|
    Takes.cons (takes_group clock.secondsDigits outside) (takes_fraction clock.fractionDigits)
  refine ⟨_, find?_of_takes takes, ?_, ?_, ?_, ?_, ?_⟩
  all_goals
    cases clock.days <;> cases clock.fraction <;> simp [Match.shown?, Match.capture?, captured]

end Taken

section Found
variable {text : List Char} {found : Match}

theorem IsFigures.of_reads {name : String} {least most offset : Nat} {piece : List Char} {gained : List Capture}
    (bounds : least ≤ most)
    (reads : (Pattern.group name (.between true least (some most) (.one .digit))).Reads offset piece gained) :
    IsFigures least most piece ∧ gained = [⟨name, offset, piece⟩] := by
  cases reads with
  | group reads =>
    obtain ⟨enough, notMore, figures, rfl⟩ := reads.between bounds
    exact ⟨⟨enough, notMore, figures⟩, rfl⟩

theorem figures_of_digits {offset : Nat} {piece : List Char} {gained : List Capture}
    (reads : Pattern.digits.Reads offset piece gained) : IsFigures 1 piece.length piece ∧ gained = [] := by
  have only : Pattern.digits.Only fun c => CharSet.digit.holds c = true := fun _ holds => holds
  refine ⟨⟨?_, Nat.le_refl _, reads.characters only⟩, reads.captures_nothing rfl⟩
  cases reads with
  | plus here behind =>
    cases here
    simp

theorem days_of_reads {offset : Nat} {piece : List Char} {gained : List Capture}
    (reads : (Pattern.optional true (.sequence [.group "days" .digits, .text "."])).Reads offset piece gained) :
    ∃ days, piece = dayChars days ∧ gained = captured "days" offset days ∧
      ∀ digits ∈ days, IsFigures 1 digits.length digits := by
  cases reads with
  | skip => exact ⟨none, rfl, rfl, by simp⟩
  | taken reads =>
    obtain ⟨digits, _, _, _, rfl, rfl, counted, pointed⟩ := reads.sequence_cons
    obtain ⟨rfl, rfl⟩ := pointed.text
    cases counted with
    | group counted =>
      obtain ⟨figures, rfl⟩ := figures_of_digits counted
      exact ⟨some digits, rfl, rfl, by rintro _ ⟨⟩; exact figures⟩

theorem fraction_of_reads {offset : Nat} {piece : List Char} {gained : List Capture}
    (reads : (Pattern.optional true (.sequence [.text ".",
      .group "fraction" (.between true 1 (some fractionDigits) (.one .digit))])).Reads offset piece gained) :
    ∃ fraction start, piece = fractionChars fraction ∧ gained = captured "fraction" start fraction ∧
      ∀ digits ∈ fraction, IsFigures 1 fractionDigits digits := by
  cases reads with
  | skip => exact ⟨none, offset, rfl, rfl, by simp⟩
  | taken reads =>
    obtain ⟨_, digits, _, _, rfl, rfl, pointed, counted⟩ := reads.sequence_cons
    obtain ⟨rfl, rfl⟩ := pointed.text
    obtain ⟨figures, rfl⟩ := IsFigures.of_reads (by decide) counted
    exact ⟨some digits, _, rfl, rfl, by rintro _ ⟨⟩; exact figures⟩

theorem clock_of_find? (there : (wholly clockParts).find? text = some found) :
    ∃ days hours minutes seconds fraction, ShowsClock found days hours minutes seconds fraction ∧
      text = dayChars days ++ hours ++ ':' :: (minutes ++ ':' :: (seconds ++ fractionChars fraction)) ∧
      (∀ digits ∈ days, IsFigures 1 digits.length digits) ∧ IsFigures 1 2 hours ∧ IsFigures 2 2 minutes ∧
      IsFigures 2 2 seconds ∧ ∀ digits ∈ fraction, IsFigures 1 fractionDigits digits := by
  have reads : (sequence clockParts).Reads 0 text found.captures := reads_of_find? there
  obtain ⟨_, _, _, _, rfl, captures, counted, reads⟩ := reads.sequence_cons
  obtain ⟨hours, _, _, _, rfl, rfl, hoursShown, reads⟩ := reads.sequence_cons
  obtain ⟨_, _, _, _, rfl, rfl, firstColon, reads⟩ := reads.sequence_cons
  obtain ⟨minutes, _, _, _, rfl, rfl, minutesShown, reads⟩ := reads.sequence_cons
  obtain ⟨_, _, _, _, rfl, rfl, secondColon, reads⟩ := reads.sequence_cons
  obtain ⟨seconds, _, _, _, rfl, rfl, secondsShown, reads⟩ := reads.sequence_cons
  obtain ⟨_, _, _, _, rfl, rfl, parted, reads⟩ := reads.sequence_cons
  cases reads
  obtain ⟨days, rfl, rfl, daysFigures⟩ := days_of_reads counted
  obtain ⟨hoursFigures, rfl⟩ := IsFigures.of_reads (by decide) hoursShown
  obtain ⟨rfl, rfl⟩ := firstColon.text
  obtain ⟨minutesFigures, rfl⟩ := IsFigures.of_reads (by decide) minutesShown
  obtain ⟨rfl, rfl⟩ := secondColon.text
  obtain ⟨secondsFigures, rfl⟩ := IsFigures.of_reads (by decide) secondsShown
  obtain ⟨fraction, start, rfl, rfl, fractionFigures⟩ := fraction_of_reads parted
  refine ⟨days, hours, minutes, seconds, fraction, ?shown, by simp, daysFigures, hoursFigures, minutesFigures,
    secondsFigures, fractionFigures⟩
  refine ⟨?_, ?_, ?_, ?_, ?_⟩
  all_goals
    cases days <;> cases fraction <;> simp [Match.shown?, Match.capture?, captures, captured]

end Found

section Clocks
variable {found : Match} {time : ClockTime}

theorem timeOf?_clock {clock : Clock}
    (shows : ShowsClock found clock.days clock.hours clock.minutes clock.seconds clock.fraction)
    (fits : dayCount clock.days < Text.wordBound) : timeOf? found = some clock.time := by
  have days := (number?_eq_some_iff fun digits here => (clock.daysDigits digits here).isFigures).mpr
    ⟨clock.daysDigits, rfl, fits⟩
  have hours := clock.hoursDigits.isFigures.readNumber?_eq_some_iff.mpr ⟨clock.hoursDigits, rfl,
    Nat.lt_trans clock.hoursDigits.value_lt (by decide)⟩
  have minutes := clock.minutesDigits.isFigures.readNumber?_eq_some_iff.mpr ⟨clock.minutesDigits, rfl,
    Nat.lt_trans clock.minutesDigits.value_lt (by decide)⟩
  have seconds := clock.secondsDigits.isFigures.readNumber?_eq_some_iff.mpr ⟨clock.secondsDigits, rfl,
    Nat.lt_trans clock.secondsDigits.value_lt (by decide)⟩
  have fraction := (ticks?_eq_some_iff fun digits here => (clock.fractionDigits digits here).isFigures).mpr
    ⟨clock.fractionDigits, rfl⟩
  have bounds : ¬ (59 < digitsValue clock.minutes ∨ 59 < digitsValue clock.seconds) :=
    not_or.mpr ⟨Nat.not_lt.mpr clock.minutesInHour, Nat.not_lt.mpr clock.secondsInMinute⟩
  unfold timeOf?
  rw [shows.days, shows.hours, shows.minutes, shows.seconds, shows.fraction, days, number?, hours, number?, minutes,
    number?, seconds, fraction]
  exact if_neg bounds

theorem timeOf?_eq_some {days fraction : Option (List Char)} {hours minutes seconds : List Char}
    (shows : ShowsClock found days hours minutes seconds fraction)
    (daysFigures : ∀ digits ∈ days, IsFigures 1 digits.length digits) (hoursFigures : IsFigures 1 2 hours)
    (minutesFigures : IsFigures 2 2 minutes) (secondsFigures : IsFigures 2 2 seconds)
    (fractionFigures : ∀ digits ∈ fraction, IsFigures 1 fractionDigits digits)
    (read : timeOf? found = some time) :
    ∃ clock : Clock, clock.chars = dayChars days ++ hours ++
        ':' :: (minutes ++ ':' :: (seconds ++ fractionChars fraction)) ∧
      dayCount clock.days < Text.wordBound ∧ clock.time = time := by
  unfold timeOf? at read
  rw [shows.days, shows.hours, shows.minutes, shows.seconds, shows.fraction] at read
  obtain ⟨dayNumber, daysRead, read⟩ := Option.bind_eq_some_iff.mp read
  obtain ⟨hourNumber, hoursRead, read⟩ := Option.bind_eq_some_iff.mp read
  obtain ⟨minuteNumber, minutesRead, read⟩ := Option.bind_eq_some_iff.mp read
  obtain ⟨secondNumber, secondsRead, read⟩ := Option.bind_eq_some_iff.mp read
  obtain ⟨isDays, rfl, fits⟩ := (number?_eq_some_iff daysFigures).mp daysRead
  obtain ⟨isHours, rfl, -⟩ := hoursFigures.readNumber?_eq_some_iff.mp hoursRead
  obtain ⟨isMinutes, rfl, -⟩ := minutesFigures.readNumber?_eq_some_iff.mp minutesRead
  obtain ⟨isSeconds, rfl, -⟩ := secondsFigures.readNumber?_eq_some_iff.mp secondsRead
  split at read
  next => cases read
  next bounds =>
    rw [not_or, Nat.not_lt, Nat.not_lt] at bounds
    obtain ⟨ticks, fractionRead, read⟩ := Option.bind_eq_some_iff.mp read
    obtain ⟨isFraction, rfl⟩ := (ticks?_eq_some_iff fractionFigures).mp fractionRead
    exact ⟨⟨days, hours, minutes, seconds, fraction, isDays, isHours, isMinutes, isSeconds, isFraction, bounds.1,
      bounds.2⟩, rfl, fits, Option.some.inj read⟩

/-- A clock is read from a match of its pattern just as it is read without one. -/
theorem matchedTime_eq (text : List Char) : ((wholly clockParts).find? text).bind timeOf? = readTime? text := by
  ext time
  constructor
  · intro read
    obtain ⟨found, there, valued⟩ := Option.bind_eq_some_iff.mp read
    obtain ⟨days, hours, minutes, seconds, fraction, shows, rfl, daysFigures, hoursFigures, minutesFigures,
      secondsFigures, fractionFigures⟩ := clock_of_find? there
    obtain ⟨clock, written, fits, rfl⟩ := timeOf?_eq_some shows daysFigures hoursFigures minutesFigures
      secondsFigures fractionFigures valued
    rw [← written]
    exact readTime?_chars fits
  · intro read
    obtain ⟨clock, rfl, fits, rfl⟩ := readTime?_eq_some read
    obtain ⟨found, there, shows⟩ := find?_clock clock
    rw [there, Option.bind_some]
    exact timeOf?_clock shows fits

theorem matchedClock_eq (text : List Char) : ((wholly clockParts).find? text).bind ofClock? = readClock? text := by
  rw [readClock?, ← matchedTime_eq, Option.map_bind]
  rfl

end Clocks

end Duration

end GrammarFlow
