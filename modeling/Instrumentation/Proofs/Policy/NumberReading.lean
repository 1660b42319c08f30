import Instrumentation.Policy.Lookup
import Instrumentation.Proofs.Text.Numerals
/-
  Numbers in a document

  Thresholds are written as attributes or as the text of an element. Both are read by one
  reader of numbers; they differ in what a blank value means, which is wrong for an
  attribute and says nothing as a text.

  What is proved:
    1. `numberAttribute_of_denotes`, `numberText?_of_denotes` — a numeral is read as its
       value, and nothing is logged.
    2. `numberAttribute_of_not_denotes`, `numberText?_of_not_denotes` — nothing else is
       read as a number, and one warning says so.
    3. `numbers_read_exactly` — both together, and that zeros in front do not matter.
-/

namespace Instrumentation.Policy

open Xml (Attribute Node)
open Text (Denotes IsBlank Numeral)

variable {node : Node} {name value text : String} {n : UInt64}

theorem ne_empty_of_denotes (h : Denotes text n) : text ≠ "" := by
  rintro rfl
  rw [← Text.number_trim_eq_ok_iff] at h
  cases h

theorem trim_ne_empty_of_denotes (h : Denotes text n) : Text.trim text ≠ "" := by
  intro hblank
  rw [← Text.number_trim_eq_ok_iff, hblank] at h
  cases h

theorem nonEmptyAttribute?_of_ne (h : node.attribute? name = some value) (hne : value ≠ "") :
    node.nonEmptyAttribute? name = some value := by
  rw [Node.nonEmptyAttribute?, h, Option.filter_some]
  simp [hne]

/-! ## Attributes -/

theorem numberAttribute_of_denotes (h : node.attribute? name = some value)
    (hvalue : Denotes value n) (default : UInt64) :
    node.numberAttribute name default = ⟨n, []⟩ := by
  rw [Node.numberAttribute, nonEmptyAttribute?_of_ne h (ne_empty_of_denotes hvalue)]
  simp only [Text.number_trim_eq_ok_iff.2 hvalue]
  rfl

theorem numberAttribute_of_not_denotes (h : node.attribute? name = some value)
    (hne : value ≠ "") (hvalue : ¬∃ n, Denotes value n) (default : UInt64) :
    ∃ warning, node.numberAttribute name default = ⟨default, [warning]⟩ ∧
      warning.level = .warn := by
  obtain ⟨e, he⟩ := Text.exists_number_trim_eq_error hvalue
  rw [Node.numberAttribute, nonEmptyAttribute?_of_ne h hne]
  simp only [he]
  exact ⟨_, rfl, rfl⟩

/-! ## Texts -/

theorem numberText?_of_denotes (h : node.text? = some text) (htext : Denotes text n) :
    node.numberText? = ⟨some n, []⟩ := by
  have hfilter : (node.text?.map Text.trim).filter (· ≠ "") = some (Text.trim text) := by
    rw [h, Option.map_some, Option.filter_some]
    simp [trim_ne_empty_of_denotes htext]
  rw [Node.numberText?, hfilter]
  simp only [Text.number_trim_eq_ok_iff.2 htext]
  rfl

theorem numberText?_of_blank (h : ∀ text ∈ node.text?, Text.trim text = "") :
    node.numberText? = ⟨none, []⟩ := by
  have hfilter : (node.text?.map Text.trim).filter (· ≠ "") = none := by
    cases htext : node.text? with
    | none => rfl
    | some text => simp [h text htext]
  rw [Node.numberText?, hfilter]
  rfl

theorem numberText?_of_not_denotes (h : node.text? = some text) (hne : Text.trim text ≠ "")
    (htext : ¬∃ n, Denotes text n) :
    ∃ warning, node.numberText? = ⟨none, [warning]⟩ ∧ warning.level = .warn := by
  obtain ⟨e, he⟩ := Text.exists_number_trim_eq_error htext
  have hfilter : (node.text?.map Text.trim).filter (· ≠ "") = some (Text.trim text) := by
    rw [h, Option.map_some, Option.filter_some]
    simp [hne]
  rw [Node.numberText?, hfilter]
  simp only [he]
  exact ⟨_, rfl, rfl⟩

/-- A number in an attribute or in the first text of an element is read exactly or not at
all. A numeral for a number below 2 ^ 64 is that number, without a warning. Any other
attribute that is not empty leaves the default, with one warning. Any other text gives no
number, with one warning unless the text is blank. Zeros in front of the digits of a numeral
do not matter, however many there are. -/
theorem numbers_read_exactly (node : Node) :
    (∀ name value, node.attribute? name = some value → value ≠ "" → ∀ default,
      (∀ n, Denotes value n → node.numberAttribute name default = ⟨n, []⟩) ∧
      ((¬∃ n, Denotes value n) →
        ∃ warning, node.numberAttribute name default = ⟨default, [warning]⟩ ∧
          warning.level = .warn)) ∧
    (∀ text, node.text? = some text →
      (∀ n, Denotes text n → node.numberText? = ⟨some n, []⟩) ∧
      ((¬∃ n, Denotes text n) →
        (IsBlank text.toList → node.numberText? = ⟨none, []⟩) ∧
        (¬IsBlank text.toList →
          ∃ warning, node.numberText? = ⟨none, [warning]⟩ ∧ warning.level = .warn))) ∧
    (node.text? = none → node.numberText? = ⟨none, []⟩) ∧
    ∀ text (numeral : Numeral text) k n, Denotes (numeral.withZeros k) n ↔ Denotes text n := by
  refine ⟨?_, ?_, ?_, ?_⟩
  · intro name value hvalue hne default
    exact ⟨fun n hn => numberAttribute_of_denotes hvalue hn default,
      fun hnone => numberAttribute_of_not_denotes hvalue hne hnone default⟩
  · intro text htext
    refine ⟨fun n hn => numberText?_of_denotes htext hn, ?_⟩
    intro hnone
    rw [← Text.trim_eq_empty_iff]
    constructor
    · intro hblank
      apply numberText?_of_blank
      intro other hother
      obtain rfl : text = other := Option.some.inj (htext.symm.trans hother)
      exact hblank
    · intro hne
      exact numberText?_of_not_denotes htext hne hnone
  · intro hnone
    apply numberText?_of_blank
    intro text htext
    rw [hnone] at htext
    cases htext
  · intro text numeral k n
    exact numeral.denotes_withZeros k n

/-- The largest number that fits, with a sign, zeros and white space, and the next one. -/
def limits : Node :=
  .element ⟨queryPlanThresholdTag, none⟩
    [⟨⟨"most", none⟩, "\u2003+0018446744073709551615\n"⟩, ⟨⟨"next", none⟩, "18446744073709551616"⟩]
    (.text "1 500" .nil)

/-- The largest number below 2 ^ 64 is read through all that may stand around it. The next
one is too large, and a number with a blank inside it is none. -/
theorem numbers_read_exactly_at_limit :
    (Denotes "\u2003+0018446744073709551615\n" 18446744073709551615 ∧
      limits.numberAttribute "most" 7 = ⟨18446744073709551615, []⟩) ∧
    ((¬∃ n, Denotes "18446744073709551616" n) ∧
      ∃ warning, limits.numberAttribute "next" 7 = ⟨7, [warning]⟩ ∧ warning.level = .warn) ∧
    (¬∃ n, Denotes "1 500" n) ∧
      ∃ warning, limits.numberText? = ⟨none, [warning]⟩ ∧ warning.level = .warn := by
  have hmost : Denotes "\u2003+0018446744073709551615\n" 18446744073709551615 := by
    rw [← Text.number_trim_eq_ok_iff]
    decide +kernel
  have hnext : ¬∃ n, Denotes "18446744073709551616" n := by
    rintro ⟨n, hn⟩
    have hread : Text.number (Text.trim "18446744073709551616") = .error .tooLarge := by
      decide +kernel
    rw [← Text.number_trim_eq_ok_iff, hread] at hn
    cases hn
  have hinner : ¬∃ n, Denotes "1 500" n := by
    rintro ⟨n, hn⟩
    have hread : Text.number (Text.trim "1 500") = .error .invalidDigit := by decide +kernel
    rw [← Text.number_trim_eq_ok_iff, hread] at hn
    cases hn
  have hblank : ¬IsBlank "1 500".toList := by
    intro h
    exact absurd (h '1' (by decide)) (by decide)
  obtain ⟨hattribute, htext, -, -⟩ := numbers_read_exactly limits
  refine ⟨⟨hmost, ?_⟩, ⟨hnext, ?_⟩, hinner, ?_⟩
  · exact (hattribute "most" _ (by decide +kernel) (by decide) 7).1 _ hmost
  · exact (hattribute "next" _ (by decide +kernel) (by decide) 7).2 hnext
  · exact ((htext "1 500" rfl).2 hinner).2 hblank

end Instrumentation.Policy
