import MessageBus.Text.Natural
/-!
# Natural numbers as text

A number within the bound is read back from its decimal digits (`readNatural_toString`), and no other is ever read
(`le_of_readNatural`).
-/

namespace MessageBus.Text

/-- Digits are read from the left, each value being within the bound as the last one is. -/
theorem digitsFrom_eq {bound value : Nat} {cs : List Char} (hdigits : ∀ c ∈ cs, c.isDigit)
    (hbound : Nat.ofDigitChars 10 cs value ≤ bound) :
    digitsFrom bound value cs = .ok (Nat.ofDigitChars 10 cs value) := by
  induction cs generalizing value with
  | nil => rfl
  | cons c cs ih =>
    rw [Nat.ofDigitChars_cons] at hbound ⊢
    have hnext : 10 * value + (c.toNat - '0'.toNat) ≤ bound := by
      refine Nat.le_trans ?_ hbound
      rw [Nat.ofDigitChars_eq_ofDigitChars_zero]
      exact Nat.le_trans (Nat.le_mul_of_pos_left _ (Nat.pow_pos (by decide))) (Nat.le_add_right _ _)
    rw [List.forall_mem_cons] at hdigits
    simp only [digitsFrom, hdigits.1, if_true, Nat.mul_comm value 10, if_pos hnext]
    exact ih hdigits.2 hbound

/-- A number within the bound is read back from its digits. -/
theorem readNatural_toString {bound n : Nat} (h : n ≤ bound) : readNatural bound (toString n) = .ok n := by
  have hdigits : ∀ c ∈ Nat.toDigits 10 n, c.isDigit := fun c hc =>
    Nat.isDigit_of_mem_toDigits (b := 10) (by decide) (by decide) hc
  have hread : digitsFrom bound 0 (Nat.toDigits 10 n) = .ok n := by
    have hvalue : Nat.ofDigitChars 10 (Nat.toDigits 10 n) 0 = n := Nat.ofDigitChars_ten_toDigits
    rw [digitsFrom_eq hdigits (hvalue.symm ▸ h), hvalue]
  rw [readNatural, Nat.toString_eq_ofList_toDigits, String.toList_ofList]
  cases hcs : Nat.toDigits 10 n with
  | nil => exact absurd hcs Nat.toDigits_ne_nil
  | cons c cs =>
    rw [hcs] at hdigits hread
    have hplus : c ≠ '+' := fun heq => absurd (hdigits c List.mem_cons_self) (heq ▸ by decide)
    simpa [hplus] using hread

theorem le_of_digitsFrom {bound value n : Nat} {cs : List Char} (hvalue : value ≤ bound)
    (h : digitsFrom bound value cs = .ok n) : n ≤ bound := by
  induction cs generalizing value with
  | nil => exact Except.ok.inj h ▸ hvalue
  | cons c cs ih =>
    simp only [digitsFrom] at h
    split at h
    · split at h
      case isTrue hnext => exact ih hnext h
      case isFalse => cases h
    · cases h

theorem le_of_readNatural {bound n : Nat} {s : String} (h : readNatural bound s = .ok n) : n ≤ bound := by
  unfold readNatural at h
  split at h
  · cases h
  · cases h
  · exact le_of_digitsFrom (Nat.zero_le _) h
  · exact le_of_digitsFrom (Nat.zero_le _) h

end MessageBus.Text
