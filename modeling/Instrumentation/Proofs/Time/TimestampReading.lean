import Instrumentation.Proofs.Time.Gregorian
import Instrumentation.Text.Digit
/-
  Reading timestamps

  A written timestamp is cut into runs of digits and the marks between them. The date
  has to be one of the calendar and the time of day one of a day; the fraction may have
  up to nine places, and the offset is zero.

  What is proved:
    1. `readNumber?_padded` — a padded number is read whatever comes behind it, if that
       is no digit.
    2. `readYear?_written`, `readFraction?_written` — so are years with and without a
       sign, and fractions of any of the lengths that are written.
    3. `ofText?_written` — every timestamp is read back from its written form, to the
       nanosecond.
-/

namespace Instrumentation.Time

open Text (EndsNumber endsNumber_cons)

/-! ## The reader -/

/-- Reads all digits up to the first other character, if there are as many as there
should be. -/
def readNumber? (fits : Nat → Bool) (cs : List Char) : Option (Nat × List Char) :=
  let digits := cs.takeWhile Char.isDigit
  if fits digits.length then
    some (Nat.ofDigitChars 10 digits 0, cs.dropWhile Char.isDigit)
  else none

def readMark? (mark : Char) : List Char → Option (List Char)
  | [] => none
  | c :: rest => if c == mark then some rest else none

/-- Reads a year: four digits, or a sign and at least four digits. -/
def readYear? : List Char → Option (Int × List Char)
  | '-' :: rest => (readNumber? (4 ≤ ·) rest).map fun (n, rest) => (-n, rest)
  | '+' :: rest => (readNumber? (4 ≤ ·) rest).map fun (n, rest) => (n, rest)
  | rest => (readNumber? (· == 4) rest).map fun (n, rest) => (n, rest)

/-- Reads a fraction of a second in nanoseconds, if there is one. -/
def readFraction? : List Char → Option (Nat × List Char)
  | '.' :: rest =>
    let places := (rest.takeWhile Char.isDigit).length
    (readNumber? (fun n => 1 ≤ n && n ≤ 9) rest).map fun (n, rest) =>
      (n * 10 ^ (9 - places), rest)
  | rest => some (0, rest)

/-- Reads a mark and two digits behind it. -/
def readPair? (mark : Char) (cs : List Char) : Option (Nat × List Char) :=
  (readMark? mark cs).bind (readNumber? (· == 2))

def Timestamp.ofParts? (date : Date) (hour minute second nanos : Nat) : Option Timestamp :=
  if h : nanos < nanosPerSecond then
    if date.IsDate ∧ hour < 24 ∧ minute < 60 ∧ second < 60 then
      some ⟨date.toDay * 86400 + (hour * 3600 + minute * 60 + second : Nat), nanos, h⟩
    else none
  else none

def Timestamp.ofText? (text : String) : Option Timestamp := do
  let (year, rest) ← readYear? text.toList
  let (month, rest) ← readPair? '-' rest
  let (day, rest) ← readPair? '-' rest
  let (hour, rest) ← readPair? 'T' rest
  let (minute, rest) ← readPair? ':' rest
  let (second, rest) ← readPair? ':' rest
  let (nanos, rest) ← readFraction? rest
  if rest = "+00:00".toList then Timestamp.ofParts? ⟨year, month, day⟩ hour minute second nanos
  else none

/-! ## Numbers -/

theorem isDigit_of_mem_padded {width n : Nat} {c : Char} (h : c ∈ padded width n) :
    c.isDigit = true := by
  rcases List.mem_append.1 h with hzero | hdigit
  · rw [List.eq_of_mem_replicate hzero]
    rfl
  · exact Nat.isDigit_of_mem_toDigits (by decide) (by decide) hdigit

theorem length_padded_of_lt {width n : Nat} (hwidth : 0 < width) (h : n < 10 ^ width) :
    (padded width n).length = width := by
  have hdigits := (Nat.length_toDigits_le_iff (by decide) hwidth).2 h
  rw [padded, List.length_leftpad]
  omega

theorem ofDigitChars_padded (width n : Nat) : Nat.ofDigitChars 10 (padded width n) 0 = n := by
  rw [padded, List.leftpad, Nat.ofDigitChars_append, Nat.ofDigitChars_replicate_zero, Nat.mul_zero,
    Nat.ofDigitChars_ten_toDigits]

theorem takeWhile_padded {rest : List Char} (hrest : EndsNumber rest) (width n : Nat) :
    (padded width n ++ rest).takeWhile Char.isDigit = padded width n ∧
    (padded width n ++ rest).dropWhile Char.isDigit = rest := by
  have hdigits : ∀ c ∈ padded width n, c.isDigit = true := fun c => isDigit_of_mem_padded
  rw [List.takeWhile_append_of_pos hdigits, List.dropWhile_append_of_pos hdigits]
  cases rest with
  | nil => exact ⟨List.append_nil _, rfl⟩
  | cons c rest =>
    have hc : ¬c.isDigit = true := by
      rw [hrest c rfl]
      exact Bool.false_ne_true
    rw [List.takeWhile_cons_of_neg hc, List.dropWhile_cons_of_neg hc]
    exact ⟨List.append_nil _, rfl⟩

theorem readNumber?_padded (fits : Nat → Bool) {width n : Nat} {rest : List Char}
    (hfits : fits (padded width n).length = true) (hrest : EndsNumber rest) :
    readNumber? fits (padded width n ++ rest) = some (n, rest) := by
  obtain ⟨htake, hdrop⟩ := takeWhile_padded hrest width n
  rw [readNumber?, htake, hdrop, ofDigitChars_padded]
  exact if_pos hfits

theorem readPair?_padded {mark : Char} {n : Nat} {rest : List Char} (hn : n < 100)
    (hrest : EndsNumber rest) : readPair? mark (mark :: (padded 2 n ++ rest)) = some (n, rest) := by
  have hlength : (padded 2 n).length = 2 := length_padded_of_lt (by decide) hn
  have hmark : readMark? mark (mark :: (padded 2 n ++ rest)) = some (padded 2 n ++ rest) := by
    simp [readMark?]
  rw [readPair?, hmark, Option.bind_some, readNumber?_padded (· == 2) _ hrest]
  rw [hlength]
  rfl

/-! ## Years and fractions -/

theorem readYear?_of_isDigit {c : Char} (h : c.isDigit = true) (rest : List Char) :
    readYear? (c :: rest) =
      (readNumber? (· == 4) (c :: rest)).map fun (n, rest) => (n, rest) := by
  unfold readYear?
  split
  · next heq =>
    cases heq
    cases h
  · next heq =>
    cases heq
    cases h
  · rfl

theorem readYear?_written (year : Int) {rest : List Char} (hrest : EndsNumber rest) :
    readYear? (writtenYear year ++ rest) = some (year, rest) := by
  unfold writtenYear
  split
  · next hyear =>
    have hlength : (padded 4 year.toNat).length = 4 := length_padded_of_lt (by decide) (by omega)
    have hread := readNumber?_padded (· == 4) (beq_iff_eq.2 hlength) hrest
    cases hpadded : padded 4 year.toNat with
    | nil => simp [hpadded] at hlength
    | cons c more =>
      have hc : c.isDigit = true :=
        isDigit_of_mem_padded (by rw [hpadded]; exact List.mem_cons_self)
      rw [hpadded] at hread
      rw [List.cons_append] at hread ⊢
      rw [readYear?_of_isDigit hc, hread]
      simp [Int.toNat_of_nonneg hyear.1]
  · next hyear =>
    -- The sign says on which side of the four-digit years the year is.
    have hlength : 4 ≤ (padded 4 year.natAbs).length := by
      rw [padded, List.length_leftpad]
      exact Nat.le_max_left _ _
    have hread := readNumber?_padded (4 ≤ ·) (decide_eq_true hlength) hrest
    split
    · next hneg =>
      show (readNumber? (4 ≤ ·) (padded 4 year.natAbs ++ rest)).map _ = _
      rw [hread, Option.map_some]
      show some (-(year.natAbs : Int), rest) = some (year, rest)
      rw [show -(year.natAbs : Int) = year by omega]
    · next hpos =>
      show (readNumber? (4 ≤ ·) (padded 4 year.natAbs ++ rest)).map _ = _
      rw [hread, Option.map_some]
      show some ((year.natAbs : Int), rest) = some (year, rest)
      rw [show (year.natAbs : Int) = year by omega]

theorem readFraction?_point (cs : List Char) :
    readFraction? ('.' :: cs) =
      (readNumber? (fun n => 1 ≤ n && n ≤ 9) cs).map fun (n, rest) =>
        (n * 10 ^ (9 - (cs.takeWhile Char.isDigit).length), rest) := rfl

theorem readFraction?_padded {places n : Nat} {rest : List Char} (hplaces : 1 ≤ places)
    (hle : places ≤ 9) (hn : n < 10 ^ places) (hrest : EndsNumber rest) :
    readFraction? ('.' :: padded places n ++ rest) = some (n * 10 ^ (9 - places), rest) := by
  have hlength : (padded places n).length = places := length_padded_of_lt hplaces hn
  have hfits : (1 ≤ (padded places n).length && (padded places n).length ≤ 9) = true := by
    simp [hlength, hplaces, hle]
  have hread := readNumber?_padded (fun k => 1 ≤ k && k ≤ 9) hfits hrest
  rw [List.cons_append, readFraction?_point, hread, Option.map_some,
    (takeWhile_padded hrest places n).1, hlength]

theorem readFraction?_written {nanos : Nat} (h : nanos < nanosPerSecond) (rest : List Char) :
    readFraction? (writtenFraction nanos ++ '+' :: rest) = some (nanos, '+' :: rest) := by
  have hends : EndsNumber ('+' :: rest) := endsNumber_cons rfl rest
  unfold nanosPerSecond at h
  unfold writtenFraction
  split
  · next hzero =>
    subst hzero
    rfl
  split
  · next hmilli =>
    rw [readFraction?_padded (by decide) (by decide) (by omega) hends]
    congr 2
    omega
  split
  · next hmicro =>
    rw [readFraction?_padded (by decide) (by decide) (by omega) hends]
    congr 2
    omega
  · rw [readFraction?_padded (by decide) (by decide) (by omega) hends]
    congr 2
    omega

/-! ## Timestamps -/

theorem Date.IsDate.month_le {date : Date} (h : date.IsDate) : date.month ≤ 12 := by
  by_cases hmonth : date.month ≤ 12
  · exact hmonth
  · obtain ⟨month, hmonth⟩ : ∃ month, date.month = month + 13 := ⟨date.month - 13, by omega⟩
    have hpos := h.day_pos
    have hle := h.day_le
    rw [hmonth] at hle
    exact absurd (Nat.le_trans hpos hle) (Nat.not_succ_le_zero 0)

theorem monthLength_le (year : Int) (month : Nat) : monthLength year month ≤ 31 := by
  have hfebruary : (if isLeap year then 29 else 28) ≤ 31 := by split <;> decide
  unfold monthLength
  split <;> omega

theorem endsNumber_writtenFraction (nanos : Nat) (rest : List Char) :
    EndsNumber (writtenFraction nanos ++ '+' :: rest) := by
  unfold writtenFraction
  split
  · exact endsNumber_cons rfl _
  split
  · exact endsNumber_cons rfl _
  split
  · exact endsNumber_cons rfl _
  · exact endsNumber_cons rfl _

/-- A timestamp is put together again from its date and the parts of its second. -/
theorem ofParts?_parts (timestamp : Timestamp) :
    Timestamp.ofParts? timestamp.date ((timestamp.seconds % 86400).toNat / 3600)
      ((timestamp.seconds % 86400).toNat / 60 % 60) ((timestamp.seconds % 86400).toNat % 60)
      timestamp.nanos = some timestamp := by
  obtain ⟨hdate, hday⟩ := date_ofDay (timestamp.seconds / 86400)
  generalize hsecond : (timestamp.seconds % 86400).toNat = second
  have hseconds : timestamp.seconds / 86400 * 86400 +
      (second / 3600 * 3600 + second / 60 % 60 * 60 + second % 60 : Nat) = timestamp.seconds := by
    omega
  unfold Timestamp.ofParts?
  rw [dif_pos timestamp.nanos_lt, if_pos ⟨hdate, by omega, by omega, by omega⟩, Timestamp.date,
    hday]
  obtain ⟨seconds, nanos, hnanos⟩ := timestamp
  congr

theorem ofText?_written (timestamp : Timestamp) :
    Timestamp.ofText? (String.ofList timestamp.written) = some timestamp := by
  have hdate : timestamp.date.IsDate := (date_ofDay (timestamp.seconds / 86400)).1
  have hmonth : timestamp.date.month < 100 := Nat.lt_of_le_of_lt hdate.month_le (by decide)
  have hday : timestamp.date.day < 100 :=
    Nat.lt_of_le_of_lt (Nat.le_trans hdate.day_le (monthLength_le _ _)) (by decide)
  have hparts := ofParts?_parts timestamp
  generalize hsecond : (timestamp.seconds % 86400).toNat = second at hparts
  have hwritten : timestamp.written = writtenYear timestamp.date.year ++
      '-' :: (padded 2 timestamp.date.month ++ '-' :: (padded 2 timestamp.date.day ++
        'T' :: (padded 2 (second / 3600) ++ ':' :: (padded 2 (second / 60 % 60) ++
          ':' :: (padded 2 (second % 60) ++
            (writtenFraction timestamp.nanos ++ '+' :: "00:00".toList)))))) := by
    simp [Timestamp.written, Date.written, writtenTimeOfDay, hsecond]
  have hhour : second / 3600 < 100 := by omega
  have hminute : second / 60 % 60 < 100 := by omega
  have hpair : second % 60 < 100 := by omega
  rw [Timestamp.ofText?, String.toList_ofList, hwritten,
    readYear?_written _ (endsNumber_cons rfl _)]
  simp only [Option.bind_eq_bind, Option.bind_some]
  rw [readPair?_padded hmonth (endsNumber_cons rfl _), Option.bind_some,
    readPair?_padded hday (endsNumber_cons rfl _), Option.bind_some,
    readPair?_padded hhour (endsNumber_cons rfl _), Option.bind_some,
    readPair?_padded hminute (endsNumber_cons rfl _), Option.bind_some,
    readPair?_padded hpair (endsNumber_writtenFraction _ _), Option.bind_some,
    readFraction?_written timestamp.nanos_lt, Option.bind_some]
  exact hparts

-- A text of the right form is refused if the calendar does not have its date.
example : Timestamp.ofText? "1900-02-29T00:00:00+00:00" = none := by decide

end Instrumentation.Time
