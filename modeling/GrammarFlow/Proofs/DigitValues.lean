/-!
The value of decimal digits. It stays under the power of ten that has as many zeros, and digits of one length are
determined by it.
-/

namespace GrammarFlow

theorem ofDigitChars_cons_zero (c : Char) (digits : List Char) :
    Nat.ofDigitChars 10 (c :: digits) 0 =
      Nat.pow 10 digits.length * (c.toNat - '0'.toNat) + Nat.ofDigitChars 10 digits 0 := by
  rw [Nat.ofDigitChars_cons, Nat.ofDigitChars_eq_ofDigitChars_zero, Nat.mul_zero, Nat.zero_add]
  rfl

private theorem isDigit_bounds {c : Char} (digit : c.isDigit = true) :
    '0'.toNat ≤ c.toNat ∧ c.toNat - '0'.toNat < 10 := by
  obtain ⟨least, most⟩ := Char.isDigit_iff_toNat.mp digit
  have nine : '9'.toNat = '0'.toNat + 9 := rfl
  exact ⟨least, by omega⟩

theorem ofDigitChars_lt {digits : List Char} (all : ∀ c ∈ digits, c.isDigit = true) :
    Nat.ofDigitChars 10 digits 0 < Nat.pow 10 digits.length := by
  induction digits with
  | nil => simp
  | cons c digits ih =>
    have first := (isDigit_bounds (all c (by simp))).2
    have rest := ih fun d member => all d (by simp [member])
    rw [ofDigitChars_cons_zero]
    calc Nat.pow 10 digits.length * (c.toNat - '0'.toNat) + Nat.ofDigitChars 10 digits 0
        < Nat.pow 10 digits.length * (c.toNat - '0'.toNat) + Nat.pow 10 digits.length := Nat.add_lt_add_left rest _
      _ = Nat.pow 10 digits.length * (c.toNat - '0'.toNat + 1) := (Nat.mul_succ _ _).symm
      _ ≤ Nat.pow 10 digits.length * 10 := Nat.mul_le_mul_left _ first
      _ = Nat.pow 10 (c :: digits).length := rfl

theorem ofDigitChars_inj {first second : List Char} (length : first.length = second.length)
    (firstDigits : ∀ c ∈ first, c.isDigit = true) (secondDigits : ∀ c ∈ second, c.isDigit = true)
    (value : Nat.ofDigitChars 10 first 0 = Nat.ofDigitChars 10 second 0) : first = second := by
  induction first generalizing second with
  | nil => exact (List.length_eq_zero_iff.mp length.symm).symm
  | cons a first ih =>
    obtain ⟨b, second, rfl⟩ := List.exists_cons_of_length_eq_add_one length.symm
    have length : first.length = second.length := Nat.succ.inj length
    obtain ⟨leading, firstDigits⟩ := List.forall_mem_cons.mp firstDigits
    obtain ⟨leading', secondDigits⟩ := List.forall_mem_cons.mp secondDigits
    have lower := ofDigitChars_lt firstDigits
    have upper := ofDigitChars_lt secondDigits
    rw [ofDigitChars_cons_zero, ofDigitChars_cons_zero, length] at value
    rw [length] at lower
    have positive : 0 < Nat.pow 10 second.length := Nat.pow_pos (by decide)
    have heads := congrArg (· / Nat.pow 10 second.length) value
    have tails := congrArg (· % Nat.pow 10 second.length) value
    simp only [Nat.mul_add_div positive, Nat.div_eq_of_lt lower, Nat.div_eq_of_lt upper, Nat.add_zero] at heads
    simp only [Nat.mul_add_mod, Nat.mod_eq_of_lt lower, Nat.mod_eq_of_lt upper] at tails
    have same : a = b := by
      have := (isDigit_bounds leading).1
      have := (isDigit_bounds leading').1
      exact Char.toNat_inj.mp (by omega)
    rw [same, ih length firstDigits secondDigits tails]

end GrammarFlow
