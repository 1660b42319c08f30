import Mathlib.Tactic.SplitIfs
import Instrumentation.Format.Json
/-
  The compact text of a value is one line

  Strings are escaped so that no control character stands in a text as it is, and the
  compact layout adds none. In UTF-8 a byte below 128 stands for itself alone, so the
  bytes of the text hold no control character either, and in particular no line break.

  What is proved:
    1. `isPlain_written` — no character of the compact text is below the blank.
    2. `bytes_compact` — no byte of it is.
-/

namespace Instrumentation.Format

def bytes (text : String) : List UInt8 := text.toUTF8.data.toList

theorem bytes_append (text more : String) : bytes (text ++ more) = bytes text ++ bytes more := by
  simp [bytes, String.toByteArray_append]

theorem bytes_eq_flatMap (text : String) :
    bytes text = text.toList.flatMap String.utf8EncodeChar := by
  rw [bytes, String.toUTF8, ← String.utf8Encode_toList, List.utf8Encode]
  simp

/-- A character is a byte of its own, or each of its bytes is 128 or more. -/
theorem mem_utf8EncodeChar {c : Char} {byte : UInt8} (h : byte ∈ String.utf8EncodeChar c) :
    byte.toNat = c.toNat ∨ 128 ≤ byte.toNat := by
  have hnat : c.val.toNat = c.toNat := rfl
  unfold String.utf8EncodeChar at h
  simp only at h
  split at h
  · left
    rw [List.mem_singleton.1 h, UInt8.toNat_ofNat']
    omega
  · right
    -- The marks that the bytes carry are what makes each of them large.
    split at h
    all_goals try split at h
    all_goals
      simp only [List.mem_cons, List.not_mem_nil, or_false] at h
      rcases h with rfl | rfl | rfl | rfl <;> simp only [UInt8.toNat_ofNat'] <;> omega

/-- A text without characters below the blank. -/
def IsPlain (cs : List Char) : Prop := ∀ c ∈ cs, 0x20 ≤ c.toNat

instance (cs : List Char) : Decidable (IsPlain cs) :=
  List.decidableBAll (fun c : Char => 0x20 ≤ c.toNat) cs

@[simp] theorem isPlain_nil : IsPlain [] := List.forall_mem_nil _

@[simp] theorem isPlain_cons {c : Char} {cs : List Char} :
    IsPlain (c :: cs) ↔ 0x20 ≤ c.toNat ∧ IsPlain cs := List.forall_mem_cons

@[simp] theorem isPlain_append {cs more : List Char} :
    IsPlain (cs ++ more) ↔ IsPlain cs ∧ IsPlain more := List.forall_mem_append

theorem IsPlain.bytes {cs : List Char} (h : IsPlain cs) :
    ∀ byte ∈ bytes (String.ofList cs), 0x20 ≤ byte.toNat := by
  intro byte hbyte
  rw [bytes_eq_flatMap, String.toList_ofList] at hbyte
  obtain ⟨c, hc, hbyte⟩ := List.mem_flatMap.1 hbyte
  have hlow := h c hc
  rcases mem_utf8EncodeChar hbyte with heq | hhigh <;> omega

namespace Json

theorem isPlain_hexPair : ∀ n < 0x20, IsPlain (hexPair n) := by decide

theorem isPlain_escapedChar (c : Char) : IsPlain (escapedChar c) := by
  by_cases hlow : c.toNat < 0x20
  · have hhex := isPlain_hexPair c.toNat hlow
    unfold escapedChar
    split_ifs
    all_goals first | decide | simpa using hhex
  · have hplain : IsPlain [c] := by simpa using hlow
    unfold escapedChar
    split_ifs
    all_goals first | decide | exact hplain

theorem isPlain_quoted (s : String) : IsPlain (quoted s) := by
  have hinner : IsPlain (s.toList.flatMap escapedChar) := by
    intro c hc
    obtain ⟨d, _, hc⟩ := List.mem_flatMap.1 hc
    exact isPlain_escapedChar d c hc
  simpa [quoted] using hinner

theorem isPlain_toDigits (n : Nat) : IsPlain (Nat.toDigits 10 n) := by
  intro c hc
  have hdigit := Nat.isDigit_of_mem_toDigits (by decide) (by decide) hc
  have hfrom : 0x30 ≤ c.toNat := (Char.isDigit_iff_toNat.1 hdigit).1
  omega

mutual

theorem isPlain_written (depth : Nat) : ∀ value : Json, IsPlain (written .compact depth value)
  | bool true | bool false | array [] | object [] => by rw [written]; decide
  | number n => by rw [written]; exact isPlain_toDigits n
  | string s => by rw [written]; exact isPlain_quoted s
  | array (item :: items) => by
    have hitem := isPlain_written (depth + 1) item
    have hitems := isPlain_writtenItems depth items
    simp [written, Layout.compact] at hitem hitems ⊢
    exact ⟨hitem, hitems⟩
  | object ((name, value) :: members) => by
    have hname := isPlain_quoted name
    have hvalue := isPlain_written (depth + 1) value
    have hmembers := isPlain_writtenMembers depth members
    simp [written, Layout.compact] at hname hvalue hmembers ⊢
    exact ⟨hname, hvalue, hmembers⟩

theorem isPlain_writtenItems (depth : Nat) :
    ∀ items : List Json, IsPlain (writtenItems .compact depth items)
  | [] => by simp [writtenItems, Layout.compact]
  | item :: items => by
    have hitem := isPlain_written (depth + 1) item
    have hitems := isPlain_writtenItems depth items
    simp [writtenItems, Layout.compact] at hitem hitems ⊢
    exact ⟨hitem, hitems⟩

theorem isPlain_writtenMembers (depth : Nat) :
    ∀ members : List (String × Json), IsPlain (writtenMembers .compact depth members)
  | [] => by simp [writtenMembers, Layout.compact]
  | (name, value) :: members => by
    have hname := isPlain_quoted name
    have hvalue := isPlain_written (depth + 1) value
    have hmembers := isPlain_writtenMembers depth members
    simp [writtenMembers, Layout.compact] at hname hvalue hmembers ⊢
    exact ⟨hname, hvalue, hmembers⟩

end

/-- No byte of the compact text of a value is below the blank. -/
theorem bytes_compact (value : Json) : ∀ byte ∈ bytes value.compact, 0x20 ≤ byte.toNat :=
  (isPlain_written 0 value).bytes

end Json

end Instrumentation.Format
