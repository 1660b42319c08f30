/-
  Digits

  The ASCII digits and, for bases above ten, the ASCII letters behind them in either
  case. Every numeral here is read by them, to whatever base.
-/

namespace Instrumentation.Text

/-- The value of an ASCII digit or letter as a digit. -/
def digitValue (c : Char) : Nat :=
  if c.isDigit then c.toNat - '0'.toNat
  else if c.isLower then c.toNat - 'a'.toNat + 10
  else c.toNat - 'A'.toNat + 10

/-- The value of a digit to a base of at most 36. -/
def digit? (base : Nat) (c : Char) : Option Nat :=
  if c.isAlphanum && digitValue c < base then some (digitValue c) else none

theorem digitValue_lt_ten_iff {c : Char} : digitValue c < 10 ↔ c.isDigit = true := by
  constructor
  · intro hlt
    by_cases hdigit : c.isDigit = true
    · exact hdigit
    · rw [digitValue, if_neg hdigit] at hlt
      split at hlt <;> omega
  · intro hdigit
    rw [digitValue, if_pos hdigit]
    have hbounds : '0'.toNat ≤ c.toNat ∧ c.toNat ≤ '9'.toNat := by
      simpa [Char.isDigit, UInt32.le_iff_toNat_le] using hdigit
    have hzero : '0'.toNat = 48 := rfl
    have hnine : '9'.toNat = 57 := rfl
    omega

/-- To the base ten only the ASCII digits are digits. -/
theorem digit?_ten (c : Char) :
    digit? 10 c = if c.isDigit then some (digitValue c) else none := by
  unfold digit?
  by_cases hdigit : c.isDigit = true
  · have halphanum : c.isAlphanum = true := by simp [Char.isAlphanum, hdigit]
    simp [halphanum, hdigit, digitValue_lt_ten_iff.2 hdigit]
  · rw [if_neg hdigit, if_neg]
    simp only [Bool.and_eq_true, decide_eq_true_eq, not_and]
    exact fun _ hlt => hdigit (digitValue_lt_ten_iff.1 hlt)

/-- Whether what follows a decimal number does not go on with it. -/
def EndsNumber (rest : List Char) : Prop := ∀ c ∈ rest.head?, c.isDigit = false

theorem endsNumber_cons {c : Char} (h : c.isDigit = false) (rest : List Char) :
    EndsNumber (c :: rest) := by
  intro d hd
  obtain rfl : c = d := by simpa using hd
  exact h

/-- A digit that is written is read back. -/
theorem digit?_digitChar {base digit : Nat} (hbase : base ≤ 16) (h : digit < base) :
    digit? base (Nat.digitChar digit) = some digit := by
  have hall : ∀ d < 16, (Nat.digitChar d).isAlphanum = true ∧ digitValue (Nat.digitChar d) = d := by
    decide
  obtain ⟨halphanum, hvalue⟩ := hall digit (Nat.lt_of_lt_of_le h hbase)
  rw [digit?, halphanum, hvalue]
  simp [h]

end Instrumentation.Text
