import Mathlib.Data.Nat.Digits.Defs
import Instrumentation.Text.Blank
import Instrumentation.Text.Decimal
/-
  Numerals

  A numeral is one or more ASCII digits, perhaps with a plus sign in front of them and
  with any white space around it. Its value is that of its digits in the decimal system,
  a sum of powers of ten. The reader keeps no powers: it multiplies what it has by ten and
  adds the next digit, and it gives up as soon as that is too large.

  What is proved:
    1. `trimmed_append`, `exists_trimmed` — trimming takes off the white space at both ends
       and nothing else.
    2. `readDigits_eq_ok_iff` — the loop over the digits comes to their value if that is
       below 2 ^ 64, and to no number otherwise, however many digits there are.
    3. `number_trim_eq_ok_iff` — a trimmed text is read as a number exactly if it is a
       numeral of that value.
    4. `Numeral.denotes_withZeros` — zeros in front of other digits make no difference.
-/

namespace Instrumentation.Text

/-! ## Numerals -/

/-- The value of some digits in the decimal system, the most significant in front. -/
def decimalValue (digits : List Char) : Nat :=
  Nat.ofDigits 10 (digits.map digitValue).reverse

/-- Whether a run is white space and nothing else. -/
def IsBlank (cs : List Char) : Prop := ∀ c ∈ cs, isWhiteSpace c = true

/-- The ways in which a text is a numeral. -/
structure Numeral (text : String) where
  front : List Char
  sign : List Char
  digits : List Char
  back : List Char
  toList_eq : text.toList = front ++ (sign ++ digits) ++ back
  blank_front : IsBlank front
  blank_back : IsBlank back
  sign_eq : sign = [] ∨ sign = ['+']
  digits_ne_nil : digits ≠ []
  isDigit : ∀ c ∈ digits, c.isDigit = true

/-- The value of a numeral is that of its digits. -/
def Numeral.value {text : String} (numeral : Numeral text) : Nat := decimalValue numeral.digits

/-- Whether the text is a numeral for a number below 2 ^ 64. -/
def Denotes (text : String) (n : UInt64) : Prop :=
  ∃ numeral : Numeral text, numeral.value = n.toNat

@[simp] theorem decimalValue_nil : decimalValue [] = 0 := rfl

theorem decimalValue_cons (c : Char) (rest : List Char) :
    decimalValue (c :: rest) = digitValue c * 10 ^ rest.length + decimalValue rest := by
  rw [decimalValue, List.map_cons, List.reverse_cons, Nat.ofDigits_append,
    Nat.ofDigits_singleton, List.length_reverse, List.length_map, decimalValue]
  ring

/-! ## White space around a numeral -/

theorem dropWhile_eq_self {cs : List Char} (h : ∀ c ∈ cs, isWhiteSpace c = false) :
    cs.dropWhile isWhiteSpace = cs := by
  cases cs with
  | nil => rfl
  | cons c rest => exact List.dropWhile_cons_of_neg (by simp [h c])

/-- White space at both ends of a run is taken off. -/
theorem trimmed_append {front core back : List Char} (hfront : IsBlank front)
    (hback : IsBlank back) (hcore : ∀ c ∈ core, isWhiteSpace c = false) (hne : core ≠ []) :
    trimmed (front ++ core ++ back) = core := by
  have hdropFront : (front ++ core ++ back).dropWhile isWhiteSpace = core ++ back := by
    cases core with
    | nil => exact absurd rfl hne
    | cons c rest =>
      rw [List.append_assoc, List.dropWhile_append_of_pos hfront, List.cons_append,
        List.dropWhile_cons_of_neg (by simp [hcore c])]
  have hdropBack : (core ++ back).reverse.dropWhile isWhiteSpace = core.reverse := by
    have hreverse : IsBlank back.reverse := by
      intro c hc
      exact hback c (List.mem_reverse.1 hc)
    rw [List.reverse_append, List.dropWhile_append_of_pos hreverse]
    apply dropWhile_eq_self
    intro c hc
    exact hcore c (List.mem_reverse.1 hc)
  rw [trimmed, hdropFront, hdropBack, List.reverse_reverse]

/-- What is taken off at the ends of a run is white space. -/
theorem exists_trimmed (cs : List Char) :
    ∃ front back, cs = front ++ trimmed cs ++ back ∧ IsBlank front ∧ IsBlank back := by
  refine ⟨cs.takeWhile isWhiteSpace,
    ((cs.dropWhile isWhiteSpace).reverse.takeWhile isWhiteSpace).reverse, ?_, ?_, ?_⟩
  · have hback : trimmed cs ++
        ((cs.dropWhile isWhiteSpace).reverse.takeWhile isWhiteSpace).reverse =
          cs.dropWhile isWhiteSpace := by
      rw [trimmed, ← List.reverse_append, List.takeWhile_append_dropWhile, List.reverse_reverse]
    rw [List.append_assoc, hback, List.takeWhile_append_dropWhile]
  · intro c hc
    exact List.all_eq_true.1 List.all_takeWhile c hc
  · intro c hc
    exact List.all_eq_true.1 List.all_takeWhile c (List.mem_reverse.1 hc)

theorem trim_eq_empty_iff {text : String} : trim text = "" ↔ IsBlank text.toList := by
  rw [trim, String.ofList_eq_empty_iff]
  constructor
  · intro hnil c hc
    obtain ⟨front, back, htext, hfront, hback⟩ := exists_trimmed text.toList
    rw [hnil, List.append_nil] at htext
    rw [htext] at hc
    exact (List.mem_append.1 hc).elim (hfront c) (hback c)
  · intro hblank
    have hnil : (text.toList ++ []).dropWhile isWhiteSpace = [] :=
      List.dropWhile_append_of_pos hblank
    rw [List.append_nil] at hnil
    rw [trimmed, hnil]
    rfl

/-! ## Reading digits -/

/-- The loop comes to the value of all digits, those in `value` in front, if that is not
too large: what it has on the way is never larger than what it comes to. -/
theorem readDigits_eq_ok_iff {cs : List Char} {value n : Nat} (hvalue : value < UInt64.size) :
    readDigits value cs = .ok n ↔
      (∀ c ∈ cs, c.isDigit = true) ∧ value * 10 ^ cs.length + decimalValue cs = n ∧
        n < UInt64.size := by
  induction cs generalizing value with
  | nil =>
    simp only [readDigits, Except.ok.injEq, List.not_mem_nil, false_implies, implies_true,
      List.length_nil, Nat.pow_zero, Nat.mul_one, decimalValue_nil, Nat.add_zero, true_and]
    constructor
    · rintro rfl
      exact ⟨rfl, hvalue⟩
    · exact fun h => h.1
  | cons c rest ih =>
    by_cases hc : c.isDigit = true
    · have hstep : value * 10 ^ (c :: rest).length + decimalValue (c :: rest) =
          (value * 10 + digitValue c) * 10 ^ rest.length + decimalValue rest := by
        rw [decimalValue_cons, List.length_cons, Nat.pow_succ]
        ring
      have hdigit : digit? 10 c = some (digitValue c) := by rw [digit?_ten, if_pos hc]
      simp only [readDigits, hdigit, List.forall_mem_cons, hc, true_and, hstep]
      split
      · next hfits => exact ih hfits
      · next hlarge =>
        constructor
        · intro h
          cases h
        · rintro ⟨-, rfl, hfits⟩
          exfalso
          apply hlarge
          calc value * 10 + digitValue c
              = (value * 10 + digitValue c) * 1 := (Nat.mul_one _).symm
            _ ≤ (value * 10 + digitValue c) * 10 ^ rest.length :=
                Nat.mul_le_mul_left _ (Nat.one_le_pow _ _ (by omega))
            _ ≤ (value * 10 + digitValue c) * 10 ^ rest.length + decimalValue rest :=
                Nat.le_add_right _ _
            _ < UInt64.size := hfits
    · have hnone : digit? 10 c = none := by rw [digit?_ten, if_neg hc]
      simp only [readDigits, hnone]
      constructor
      · intro h
        cases h
      · rintro ⟨hdigits, -⟩
        exact absurd (hdigits c List.mem_cons_self) hc

/-- Zeros in front of everything else leave the loop where it was. -/
theorem readDigits_zeros (k : Nat) (cs : List Char) :
    readDigits 0 (List.replicate k '0' ++ cs) = readDigits 0 cs := by
  induction k with
  | zero => rfl
  | succ k ih =>
    rw [← ih]
    rfl

/-! ## Reading numerals -/

variable {sign : List Char}

/-- Where a digit comes first or behind a plus sign, the rest is up to the loop. -/
theorem readNumber_sign (hsign : sign = [] ∨ sign = ['+']) {c : Char} (hc : c.isDigit = true)
    (rest : List Char) : readNumber (sign ++ c :: rest) = readDigits 0 (c :: rest) := by
  rcases hsign with rfl | rfl
  · have hplus : c ≠ '+' := by
      rintro rfl
      exact absurd hc (by decide)
    rw [List.nil_append]
    unfold readNumber
    split
    · next heq => cases heq
    · next heq => exact absurd (List.cons.inj heq).1 hplus
    · next heq => exact absurd (List.cons.inj heq).1 hplus
    · rfl
  · rfl

/-- Zeros in front of other digits change nothing that is read, not even what is wrong. -/
theorem readNumber_zeros (hsign : sign = [] ∨ sign = ['+']) (k : Nat) {c : Char}
    (hc : c.isDigit = true) (rest : List Char) :
    readNumber (sign ++ (List.replicate k '0' ++ c :: rest)) = readNumber (sign ++ c :: rest) := by
  cases k with
  | zero => rfl
  | succ k =>
    calc readNumber (sign ++ (List.replicate (k + 1) '0' ++ c :: rest))
        = readDigits 0 (List.replicate (k + 1) '0' ++ c :: rest) :=
          readNumber_sign hsign (by decide) _
      _ = readDigits 0 (c :: rest) := readDigits_zeros (k + 1) _
      _ = readNumber (sign ++ c :: rest) := (readNumber_sign hsign hc rest).symm

/-- A run is read as a number exactly if it is digits, perhaps behind a plus sign, whose
value is that number and below 2 ^ 64. -/
theorem readNumber_eq_ok_iff {cs : List Char} {n : Nat} :
    readNumber cs = .ok n ↔
      ∃ sign digits, cs = sign ++ digits ∧ (sign = [] ∨ sign = ['+']) ∧ digits ≠ [] ∧
        (∀ c ∈ digits, c.isDigit = true) ∧ decimalValue digits = n ∧ n < UInt64.size := by
  have hloop : ∀ digits : List Char, readDigits 0 digits = .ok n ↔
      (∀ c ∈ digits, c.isDigit = true) ∧ decimalValue digits = n ∧ n < UInt64.size := by
    intro digits
    rw [readDigits_eq_ok_iff (by decide), Nat.zero_mul, Nat.zero_add]
  constructor
  · intro h
    unfold readNumber at h
    split at h
    · cases h
    · cases h
    · next digits hne => exact ⟨['+'], digits, rfl, .inr rfl, hne, (hloop digits).1 h⟩
    · next hne _ _ => exact ⟨[], cs, rfl, .inl rfl, hne, (hloop cs).1 h⟩
  · rintro ⟨sign, digits, rfl, hsign, hne, hdigits, hread⟩
    cases digits with
    | nil => exact absurd rfl hne
    | cons c rest =>
      rw [readNumber_sign hsign (hdigits c List.mem_cons_self)]
      exact (hloop (c :: rest)).2 ⟨hdigits, hread⟩

theorem number_eq_ok_iff {text : String} {n : UInt64} :
    number text = .ok n ↔ readNumber text.toList = .ok n.toNat := by
  rw [number]
  cases hread : readNumber text.toList with
  | error e => simp [Except.map]
  | ok m =>
    obtain ⟨_, _, _, _, _, _, _, hm⟩ := readNumber_eq_ok_iff.1 hread
    simp only [Except.map, Except.ok.injEq]
    constructor
    · rintro rfl
      exact (UInt64.toNat_ofNat_of_lt' hm).symm
    · rintro rfl
      exact UInt64.ofNat_toNat

theorem isWhiteSpace_of_isDigit {c : Char} (h : c.isDigit = true) : isWhiteSpace c = false := by
  have hrange : 48 ≤ c.toNat ∧ c.toNat ≤ 57 := Char.isDigit_iff_toNat.1 h
  simp only [isWhiteSpace, Bool.or_eq_false_iff, Bool.and_eq_false_iff, decide_eq_false_iff_not,
    beq_eq_false_iff_ne]
  omega

/-- A numeral is what is left of it without white space, and that is never blank. -/
theorem Numeral.trimmed_eq {text : String} (numeral : Numeral text) :
    trimmed text.toList = numeral.sign ++ numeral.digits := by
  rw [numeral.toList_eq]
  apply trimmed_append numeral.blank_front numeral.blank_back
  · intro c hc
    rcases List.mem_append.1 hc with hc | hc
    · rcases numeral.sign_eq with hsign | hsign <;> rw [hsign] at hc
      · cases hc
      · obtain rfl := List.mem_singleton.1 hc
        decide
    · exact isWhiteSpace_of_isDigit (numeral.isDigit c hc)
  · intro hnil
    exact numeral.digits_ne_nil (List.append_eq_nil_iff.1 hnil).2

/-- A trimmed text is read as a number exactly if the text is a numeral for it. -/
theorem number_trim_eq_ok_iff {text : String} {n : UInt64} :
    number (trim text) = .ok n ↔ Denotes text n := by
  rw [number_eq_ok_iff, trim, String.toList_ofList, readNumber_eq_ok_iff]
  constructor
  · rintro ⟨sign, digits, htrimmed, hsign, hne, hdigits, hvalue, -⟩
    obtain ⟨front, back, htext, hfront, hback⟩ := exists_trimmed text.toList
    rw [htrimmed] at htext
    exact ⟨⟨front, sign, digits, back, htext, hfront, hback, hsign, hne, hdigits⟩, hvalue⟩
  · rintro ⟨numeral, hvalue⟩
    exact ⟨numeral.sign, numeral.digits, numeral.trimmed_eq, numeral.sign_eq,
      numeral.digits_ne_nil, numeral.isDigit, hvalue, n.toNat_lt⟩

/-- What is no numeral for a number below 2 ^ 64 is an error. -/
theorem exists_number_trim_eq_error {text : String} (h : ¬∃ n, Denotes text n) :
    ∃ e, number (trim text) = .error e := by
  cases hread : number (trim text) with
  | error e => exact ⟨e, rfl⟩
  | ok n => exact absurd ⟨n, number_trim_eq_ok_iff.1 hread⟩ h

/-! ## Zeros in front -/

namespace Numeral

variable {text : String}

/-- The text of a numeral with zeros in front of its digits. -/
def withZeros (numeral : Numeral text) (k : Nat) : String :=
  String.ofList
    (numeral.front ++ (numeral.sign ++ (List.replicate k '0' ++ numeral.digits)) ++ numeral.back)

def padded (numeral : Numeral text) (k : Nat) : Numeral (numeral.withZeros k) where
  front := numeral.front
  sign := numeral.sign
  digits := List.replicate k '0' ++ numeral.digits
  back := numeral.back
  toList_eq := String.toList_ofList
  blank_front := numeral.blank_front
  blank_back := numeral.blank_back
  sign_eq := numeral.sign_eq
  digits_ne_nil h := numeral.digits_ne_nil (List.append_eq_nil_iff.1 h).2
  isDigit := by
    intro c hc
    rcases List.mem_append.1 hc with hzero | hdigit
    · rw [List.eq_of_mem_replicate hzero]
      rfl
    · exact numeral.isDigit c hdigit

/-- And it is one for the same number. -/
theorem denotes_withZeros (numeral : Numeral text) (k : Nat) (n : UInt64) :
    Denotes (numeral.withZeros k) n ↔ Denotes text n := by
  have hzeros : readNumber (trim (numeral.withZeros k)).toList =
      readNumber (trim text).toList := by
    obtain ⟨c, rest, hdigits⟩ := List.exists_cons_of_ne_nil numeral.digits_ne_nil
    have hc : c.isDigit = true := numeral.isDigit c (by simp [hdigits])
    calc readNumber (trim (numeral.withZeros k)).toList
        = readNumber (numeral.sign ++ (List.replicate k '0' ++ numeral.digits)) := by
          rw [trim, String.toList_ofList, (numeral.padded k).trimmed_eq]
          rfl
      _ = readNumber (numeral.sign ++ numeral.digits) := by
          rw [hdigits, readNumber_zeros numeral.sign_eq k hc rest]
      _ = readNumber (trim text).toList := by
          rw [trim, String.toList_ofList, numeral.trimmed_eq]
  rw [← number_trim_eq_ok_iff, ← number_trim_eq_ok_iff, number_eq_ok_iff, number_eq_ok_iff, hzeros]

end Numeral

end Instrumentation.Text
