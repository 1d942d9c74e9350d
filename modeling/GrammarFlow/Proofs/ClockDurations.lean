import Mathlib.Data.List.Basic
import Mathlib.Data.List.TakeWhile
import GrammarFlow.Proofs.DigitValues
import GrammarFlow.Transcript.Duration

/-!
Durations that are written as a clock. The colons part the minutes and the seconds from what stands on either side of
them, so the point of a day count and that of a fraction are never taken for each other. A text with a colon in it is
no number with a unit, so a clock that is refused is refused for good.
-/

namespace GrammarFlow

namespace Duration

structure IsDigits (least most : Nat) (text : List Char) : Prop where
  enough : least ≤ text.length
  notMore : text.length ≤ most
  digits : ∀ c ∈ text, c.isDigit = true

theorem isDigits_iff {least most : Nat} {text : List Char} :
    IsDigits least most text ↔ least ≤ text.length ∧ text.length ≤ most ∧ text.all Char.isDigit = true := by
  rw [List.all_eq_true]
  exact ⟨fun shape => ⟨shape.enough, shape.notMore, shape.digits⟩, fun shape => ⟨shape.1, shape.2.1, shape.2.2⟩⟩

instance (least most : Nat) (text : List Char) : Decidable (IsDigits least most text) :=
  decidable_of_iff _ isDigits_iff.symm

theorem readDigits?_eq_some_iff {least most value : Nat} {text : List Char} :
    readDigits? least most text = some value ↔ IsDigits least most text ∧ digitsValue text = value := by
  rw [readDigits?, isDigits_iff]
  simp

theorem IsDigits.not_mem {least most : Nat} {text : List Char} {c : Char} (digits : IsDigits least most text)
    (other : c.isDigit = false) : c ∉ text := by
  intro member
  rw [digits.digits c member] at other
  cases other

theorem IsDigits.value_lt {least most : Nat} {text : List Char} (digits : IsDigits least most text) :
    digitsValue text < Nat.pow 10 most :=
  Nat.lt_of_lt_of_le (ofDigitChars_lt digits.digits) (Nat.pow_le_pow_right (by decide) digits.notMore)

theorem IsDigits.pair {text : List Char} (digits : IsDigits 2 2 text) : ∃ a b, text = [a, b] :=
  List.length_eq_two.mp (Nat.le_antisymm digits.notMore digits.enough)

/-- A duration as a clock shows it: digits and what they have to keep to. -/
structure Clock where
  days : Option (List Char)
  hours : List Char
  minutes : List Char
  seconds : List Char
  fraction : Option (List Char)
  daysDigits : ∀ digits ∈ days, IsDigits 1 digits.length digits
  hoursDigits : IsDigits 1 2 hours
  minutesDigits : IsDigits 2 2 minutes
  secondsDigits : IsDigits 2 2 seconds
  fractionDigits : ∀ digits ∈ fraction, IsDigits 1 fractionDigits digits
  minutesInHour : digitsValue minutes ≤ 59
  secondsInMinute : digitsValue seconds ≤ 59

namespace Clock

def dayChars : Option (List Char) → List Char
  | none => []
  | some digits => digits ++ ['.']

def dayCount : Option (List Char) → Nat
  | none => 0
  | some digits => digitsValue digits

def fractionChars : Option (List Char) → List Char
  | none => []
  | some digits => '.' :: digits

/-- The digits count steps of 100 nanoseconds when there are as many as can be, and ten times as many for each one
that is left out. -/
def fractionSteps : Option (List Char) → Nat
  | none => 0
  | some digits => digitsValue digits * Nat.pow 10 (7 - digits.length)

def fractionNanoseconds (fraction : Option (List Char)) : Nat := fractionSteps fraction * 100

def chars (clock : Clock) : List Char :=
  dayChars clock.days ++ clock.hours ++
    ':' :: (clock.minutes ++ ':' :: (clock.seconds ++ fractionChars clock.fraction))

def wholeSeconds (clock : Clock) : Nat :=
  ((dayCount clock.days * 24 + digitsValue clock.hours) * 60 + digitsValue clock.minutes) * 60 +
    digitsValue clock.seconds

def duration (clock : Clock) : Duration :=
  ⟨clock.wholeSeconds * perSecond + fractionNanoseconds clock.fraction⟩

def time (clock : Clock) : ClockTime :=
  ⟨dayCount clock.days, digitsValue clock.hours, digitsValue clock.minutes, digitsValue clock.seconds,
    fractionNanoseconds clock.fraction⟩

theorem duration_time (clock : Clock) : clock.time.duration = clock.duration := rfl

end Clock

open Clock

section Cuts
variable {text rest : List Char}

/-- A piece of a text is cut off where its kind of characters ends. -/
theorem cut_exact {kind : Char → Bool} (inside : ∀ c ∈ text, kind c = true)
    (outside : ∀ c ∈ rest.head?, kind c = false) :
    (text ++ rest).takeWhile kind = text ∧ (text ++ rest).dropWhile kind = rest := by
  rw [List.takeWhile_append_of_pos inside, List.dropWhile_append_of_pos inside]
  cases rest with
  | nil => simp
  | cons c rest => simp [outside c rfl]

theorem cut_first {point : Char} (absent : point ∉ text) (rest : List Char) :
    (text ++ point :: rest).takeWhile (· ≠ point) = text ∧
      (text ++ point :: rest).dropWhile (· ≠ point) = point :: rest := by
  refine cut_exact (fun c member => decide_eq_true fun (same : c = point) => absent (same ▸ member)) ?_
  rintro c ⟨⟩
  exact decide_eq_false fun other => other rfl

theorem cut_absent {point : Char} (absent : point ∉ text) :
    text.takeWhile (· ≠ point) = text ∧ text.dropWhile (· ≠ point) = [] := by
  have inside : ∀ c ∈ text, decide (c ≠ point) = true := by
    intro c member
    exact decide_eq_true fun (same : c = point) => absent (same ▸ member)
  exact ⟨List.takeWhile_eq_self_iff.mpr inside, List.dropWhile_eq_nil_iff.mpr inside⟩

end Cuts

section Parts
variable {text hours : List Char} {days fraction : Option (List Char)}

theorem readHours?_days (isDays : ∀ digits ∈ days, IsDigits 1 digits.length digits) (isHours : IsDigits 1 2 hours)
    (fits : dayCount days < Text.wordBound) :
    readHours? (dayChars days ++ hours) = some (dayCount days, digitsValue hours) := by
  have read := readDigits?_eq_some_iff.mpr ⟨isHours, rfl⟩
  cases days with
  | none =>
    obtain ⟨front, none⟩ := cut_absent (isHours.not_mem (c := '.') rfl)
    simp only [readHours?, dayChars, List.nil_append, front, none, read, dayCount]
    rfl
  | some digits =>
    have isDays := isDays digits rfl
    obtain ⟨front, behind⟩ := cut_first (isDays.not_mem (c := '.') rfl) hours
    have count := readDigits?_eq_some_iff.mpr ⟨isDays, rfl⟩
    have written : dayChars (some digits) ++ hours = digits ++ '.' :: hours := by simp [dayChars]
    rw [written, readHours?, front, behind]
    dsimp only
    rw [count, read]
    exact if_pos fits

theorem readHours?_eq_some {counts : Nat × Nat} (read : readHours? text = some counts) :
    ∃ days hours, (∀ digits ∈ days, IsDigits 1 digits.length digits) ∧ IsDigits 1 2 hours ∧
      dayCount days < Text.wordBound ∧ dayChars days ++ hours = text ∧ (dayCount days, digitsValue hours) = counts := by
  have parts := List.takeWhile_append_dropWhile (p := fun c => decide (c ≠ '.')) (l := text)
  unfold readHours? at read
  dsimp only at read
  split at read
  next whole =>
    obtain ⟨hours, found, rfl⟩ := Option.map_eq_some_iff.mp read
    obtain ⟨digits, rfl⟩ := readDigits?_eq_some_iff.mp found
    rw [whole, List.append_nil] at parts
    exact ⟨none, _, by simp, digits, by decide, parts, rfl⟩
  next c behind point =>
    have stop := List.head?_dropWhile_not (fun c => decide (c ≠ '.')) text
    rw [point] at stop
    obtain rfl : c = '.' := by simpa using stop
    obtain ⟨days, foundDays, read⟩ := Option.bind_eq_some_iff.mp read
    obtain ⟨hours, foundHours, read⟩ := Option.bind_eq_some_iff.mp read
    obtain ⟨isDays, rfl⟩ := readDigits?_eq_some_iff.mp foundDays
    obtain ⟨isHours, rfl⟩ := readDigits?_eq_some_iff.mp foundHours
    split at read
    next fits =>
      refine ⟨some (text.takeWhile fun c => c ≠ '.'), behind, ?isDays, isHours, fits, ?written, Option.some.inj read⟩
      case isDays =>
        rintro digits ⟨⟩
        exact isDays
      case written =>
        rw [dayChars, List.append_assoc, List.singleton_append, ← point]
        exact parts
    next => cases read

theorem readFraction?_fraction (isFraction : ∀ digits ∈ fraction, IsDigits 1 fractionDigits digits) :
    readFraction? (fractionChars fraction) = some (fractionNanoseconds fraction) := by
  cases fraction with
  | none => rfl
  | some digits =>
    have read := readDigits?_eq_some_iff.mpr ⟨isFraction digits rfl, rfl⟩
    simp only [fractionChars, readFraction?, read]
    rfl

theorem readFraction?_eq_some {nanoseconds : Nat} (read : readFraction? text = some nanoseconds) :
    ∃ fraction, (∀ digits ∈ fraction, IsDigits 1 fractionDigits digits) ∧ fractionChars fraction = text ∧
      fractionNanoseconds fraction = nanoseconds := by
  unfold readFraction? at read
  split at read
  next => exact ⟨none, by simp, rfl, Option.some.inj read⟩
  next digits =>
    obtain ⟨value, found, read⟩ := Option.bind_eq_some_iff.mp read
    obtain ⟨isDigits, rfl⟩ := readDigits?_eq_some_iff.mp found
    exact ⟨some digits, by rintro other ⟨⟩; exact isDigits, rfl, Option.some.inj read⟩
  next => cases read

end Parts

theorem Clock.colon_not_mem (clock : Clock) : ':' ∉ dayChars clock.days ++ clock.hours := by
  rw [List.mem_append, not_or]
  refine ⟨?_, clock.hoursDigits.not_mem rfl⟩
  cases days : clock.days with
  | none => simp [dayChars]
  | some digits => simpa [dayChars] using (clock.daysDigits digits days).not_mem (c := ':') rfl

theorem readTime?_chars {clock : Clock} (fits : dayCount clock.days < Text.wordBound) :
    readTime? clock.chars = some clock.time := by
  obtain ⟨m₁, m₂, minutes⟩ := clock.minutesDigits.pair
  obtain ⟨s₁, s₂, seconds⟩ := clock.secondsDigits.pair
  have written : clock.chars = dayChars clock.days ++ clock.hours ++
      ':' :: m₁ :: m₂ :: ':' :: s₁ :: s₂ :: fractionChars clock.fraction := by
    rw [chars, minutes, seconds]
    rfl
  obtain ⟨front, behind⟩ := cut_first clock.colon_not_mem
    (m₁ :: m₂ :: ':' :: s₁ :: s₂ :: fractionChars clock.fraction)
  have hours := readHours?_days clock.daysDigits clock.hoursDigits fits
  have minute : readDigits? 2 2 [m₁, m₂] = some (digitsValue clock.minutes) :=
    minutes ▸ readDigits?_eq_some_iff.mpr ⟨clock.minutesDigits, rfl⟩
  have second : readDigits? 2 2 [s₁, s₂] = some (digitsValue clock.seconds) :=
    seconds ▸ readDigits?_eq_some_iff.mpr ⟨clock.secondsDigits, rfl⟩
  have fraction := readFraction?_fraction clock.fractionDigits
  rw [readTime?, written, front, behind]
  simp only [hours, minute, second, fraction]
  exact if_pos ⟨clock.minutesInHour, clock.secondsInMinute⟩

theorem readTime?_eq_some {text : List Char} {time : ClockTime} (read : readTime? text = some time) :
    ∃ clock : Clock, clock.chars = text ∧ dayCount clock.days < Text.wordBound ∧ clock.time = time := by
  have parts := List.takeWhile_append_dropWhile (p := fun c => decide (c ≠ ':')) (l := text)
  unfold readTime? at read
  dsimp only at read
  split at read
  next m₁ m₂ s₁ s₂ behind colon =>
    obtain ⟨counts, foundHours, read⟩ := Option.bind_eq_some_iff.mp read
    obtain ⟨minutes, foundMinutes, read⟩ := Option.bind_eq_some_iff.mp read
    obtain ⟨seconds, foundSeconds, read⟩ := Option.bind_eq_some_iff.mp read
    obtain ⟨nanoseconds, foundFraction, read⟩ := Option.bind_eq_some_iff.mp read
    obtain ⟨days, hours, isDays, isHours, fits, front, rfl⟩ := readHours?_eq_some foundHours
    obtain ⟨isMinutes, rfl⟩ := readDigits?_eq_some_iff.mp foundMinutes
    obtain ⟨isSeconds, rfl⟩ := readDigits?_eq_some_iff.mp foundSeconds
    obtain ⟨fraction, isFraction, rfl, rfl⟩ := readFraction?_eq_some foundFraction
    split at read
    next bounds =>
      refine ⟨⟨days, hours, [m₁, m₂], [s₁, s₂], fraction, isDays, isHours, isMinutes, isSeconds, isFraction,
        bounds.1, bounds.2⟩, ?_, fits, Option.some.inj read⟩
      rw [← parts, colon, ← front]
      rfl
    next => cases read
  next => cases read

theorem readClock?_chars {clock : Clock} (fits : dayCount clock.days < Text.wordBound) :
    readClock? clock.chars = some clock.duration := by
  rw [readClock?, readTime?_chars fits, Option.map_some, duration_time]

theorem readClock?_eq_some {text : List Char} {duration : Duration} (read : readClock? text = some duration) :
    ∃ clock : Clock, clock.chars = text ∧ clock.duration = duration := by
  obtain ⟨time, shown, rfl⟩ := Option.map_eq_some_iff.mp read
  obtain ⟨clock, written, -, rfl⟩ := readTime?_eq_some shown
  exact ⟨clock, written, rfl⟩

theorem mem_dropWhile (skip : Char → Bool) {text : List Char} {c : Char} (member : c ∈ text)
    (kept : skip c = false) : c ∈ text.dropWhile skip := by
  have parts := List.takeWhile_append_dropWhile (p := skip) (l := text)
  rw [← parts, List.mem_append] at member
  refine member.resolve_left fun skipped => ?_
  rw [List.mem_takeWhile_imp skipped] at kept
  cases kept

theorem colon_mem_trimChars {text : List Char} (colon : ':' ∈ text) : ':' ∈ Text.trimChars text := by
  have front : ':' ∈ text.dropWhile Text.isBlank := mem_dropWhile _ colon (by decide)
  rw [Text.trimChars, Text.trimEndChars, List.mem_reverse]
  exact mem_dropWhile _ (List.mem_reverse.mpr front) (by decide)

theorem colon_mem_of_readDecimal? {text digits rest : List Char} {places : Nat} (colon : ':' ∈ text)
    (read : readDecimal? text = some (digits, places, rest)) : ':' ∈ rest := by
  have behind := mem_dropWhile Char.isDigit colon rfl
  unfold readDecimal? at read
  dsimp only at read
  split at read
  next => cases read
  next =>
    split at read
    next later point =>
      rw [point] at behind
      split at read
      next => cases read
      next =>
        cases read
        exact mem_dropWhile _ ((List.mem_cons.mp behind).resolve_left (by decide)) rfl
    next =>
      cases read
      exact behind

theorem unit?_of_colon {name : String} (colon : ':' ∈ name.toList) : unit? name = none := by
  unfold unit?
  split
  all_goals first | rfl | exact absurd colon (by decide)

/-- A number with a unit has no colon in it. -/
theorem readSuffixed?_of_colon {text : List Char} (colon : ':' ∈ text) : readSuffixed? text = none := by
  cases number : readDecimal? text with
  | none =>
    rw [readSuffixed?, number]
    rfl
  | some parts =>
    obtain ⟨digits, places, rest⟩ := parts
    have left := mem_dropWhile Text.isBlank (colon_mem_of_readDecimal? colon number) (by decide)
    have noUnit : unit? (String.ofList (rest.dropWhile Text.isBlank)) = none :=
      unit?_of_colon (by rwa [String.toList_ofList])
    simp [readSuffixed?, number, noUnit]

theorem Clock.dayCount_lt {days : Option (List Char)} {most : Nat}
    (isDays : ∀ digits ∈ days, IsDigits 1 digits.length digits) (short : (dayChars days).length ≤ most + 1) :
    dayCount days < Nat.pow 10 most := by
  cases days with
  | none => exact Nat.pow_pos (by decide)
  | some digits =>
    have notMore : digits.length ≤ most := by simpa [dayChars] using short
    exact Nat.lt_of_lt_of_le (isDays digits rfl).value_lt (Nat.pow_le_pow_right (by decide) notMore)

/-- Twenty characters have no room for more seconds than there are in 64 bits. -/
theorem Clock.wholeSeconds_lt {clock : Clock} (short : clock.chars.length ≤ 20) :
    clock.wholeSeconds < Text.wordBound := by
  have least := clock.hoursDigits.enough
  have minute := clock.minutesDigits.enough
  have second := clock.secondsDigits.enough
  have few : (dayChars clock.days).length ≤ 12 + 1 := by
    simp only [chars, List.length_append, List.length_cons] at short
    omega
  have days : dayCount clock.days < 1000000000000 := dayCount_lt clock.daysDigits few
  have hours : digitsValue clock.hours < 100 := clock.hoursDigits.value_lt
  have minutes := clock.minutesInHour
  have seconds := clock.secondsInMinute
  unfold wholeSeconds Text.wordBound
  omega

end Duration

end GrammarFlow
