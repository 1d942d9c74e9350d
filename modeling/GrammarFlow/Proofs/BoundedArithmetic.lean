import GrammarFlow.Text.Arithmetic

/-! What is computed in 64 bits and what is computed without a bound. The two agree until a sum or a product exceeds
64 bits, and whether one does can be said without computing in them. -/

namespace GrammarFlow.Text

/-- A computation in 64 bits fails just when something exceeds them, and else gives what it gives without a bound. -/
structure Exact {α : Type} (checked : Checked α) (exceeds : Prop) (value : α) : Prop where
  within : ¬exceeds → checked = .ok value
  beyond : exceeds → ∃ excess, checked = .error excess

namespace Exact
variable {α β : Type} {checked : Checked α} {exceeds further : Prop} {value : α}

theorem of_value (value : α) : Exact (.ok value) False value := ⟨fun _ => rfl, False.elim⟩

theorem not_exceeds (exact : Exact checked exceeds value) {given : α} (ok : checked = .ok given) : ¬exceeds := by
  intro exceeding
  obtain ⟨excess, failed⟩ := exact.beyond exceeding
  cases ok.symm.trans failed

theorem eq_of_ok (exact : Exact checked exceeds value) {given : α} (ok : checked = .ok given) : given = value :=
  Except.ok.inj (ok.symm.trans (exact.within (exact.not_exceeds ok)))

theorem congr (exact : Exact checked exceeds value) (same : exceeds ↔ further) : Exact checked further value :=
  ⟨fun absent => exact.within (mt same.mp absent), fun there => exact.beyond (same.mpr there)⟩

theorem bind {next : α → Checked β} {result : β} (exact : Exact checked exceeds value)
    (rest : Exact (next value) further result) : Exact (checked >>= next) (exceeds ∨ further) result := by
  constructor
  · rw [not_or]
    rintro ⟨here, there⟩
    rw [exact.within here]
    exact rest.within there
  · intro exceeding
    by_cases here : exceeds
    · obtain ⟨excess, failed⟩ := exact.beyond here
      exact ⟨excess, by rw [failed]; rfl⟩
    · rw [exact.within here]
      exact rest.beyond (exceeding.resolve_left here)

theorem map (exact : Exact checked exceeds value) (change : α → β) :
    Exact (change <$> checked) exceeds (change value) := by
  constructor
  · intro absent
    rw [exact.within absent]
    rfl
  · intro there
    obtain ⟨excess, failed⟩ := exact.beyond there
    exact ⟨excess, by rw [failed]; rfl⟩

variable {found : OptionT Checked α} {expected : Option α}

theorem bindOption {next : α → OptionT Checked β} {other : α → Option β} {behind : α → Prop}
    (exact : Exact found.run exceeds expected)
    (rest : ∀ value, expected = some value → Exact (next value).run (behind value) (other value)) :
    Exact (found >>= next).run (exceeds ∨ ∃ value, expected = some value ∧ behind value) (expected.bind other) := by
  rw [OptionT.run_bind]
  refine exact.bind ?_
  cases expected with
  | none => exact (of_value none).congr (by simp)
  | some value => exact (rest value rfl).congr (by simp)

theorem bindPure {next : α → OptionT Checked β} {other : α → Option β} (exact : Exact found.run exceeds expected)
    (rest : ∀ value, (next value).run = .ok (other value)) :
    Exact (found >>= next).run exceeds (expected.bind other) := by
  have pure : ∀ value, expected = some value → Exact (next value).run False (other value) := by
    intro value _
    rw [rest]
    exact of_value _
  exact (exact.bindOption pure).congr (by simp)

theorem of_option (expected : Option α) : Exact (expected.getM : OptionT Checked α).run False expected := by
  cases expected <;> exact of_value _

theorem lift (exact : Exact checked exceeds value) : Exact (OptionT.lift checked).run exceeds (some value) :=
  exact.map some

/-- What comes in place of something that is not there is not computed. -/
theorem orElse {other : Option α} (exact : Exact found.run exceeds expected) :
    Exact (found <|> other.getM).run exceeds (expected.or other) := by
  have otherwise : Exact (expected.elim (other.getM : OptionT Checked α).run fun value => .ok (some value)) False
      (expected.or other) := by
    cases expected with
    | none => exact of_option other
    | some value => exact of_value (some value)
  rw [OptionT.run_orElse]
  exact (exact.bind otherwise).congr (or_iff_left id)

end Exact

theorem exact_plus (a b : Nat) : Exact (plus a b) (wordBound ≤ a + b) (a + b) :=
  ⟨fun fits => if_pos (Nat.not_le.mp fits), fun exceeds => ⟨.sum, if_neg (Nat.not_lt.mpr exceeds)⟩⟩

theorem exact_times (a b : Nat) : Exact (times a b) (wordBound ≤ a * b) (a * b) :=
  ⟨fun fits => if_pos (Nat.not_le.mp fits), fun exceeds => ⟨.product, if_neg (Nat.not_lt.mpr exceeds)⟩⟩

end GrammarFlow.Text
