import Instrumentation.Text.Emoji
/-
  Pictures of several characters

  A skin tone belongs to the picture in front of it, letters of flags make a flag in
  pairs, and a joiner makes one picture of those around it. A line is looked at from
  its end: what stands behind is known, and the character in front of it says what
  the two take together.
-/

namespace Instrumentation.Text

/-- What the rest of a line begins with, if a character in front of it may become
one picture with it. -/
inductive Picture where
  /-- A picture. -/
  | whole
  | skinTone
  | flagLetter
  | flagLetters
  /-- A joiner, with a picture behind it. -/
  | joiner
  /-- The frame of a key in front of a joiner. -/
  | keycap
  /-- One letter of a flag in front of a joiner. -/
  | joinedLetter
  /-- Pairs of letters of flags in front of a joiner. -/
  | joinedFlags
  /-- Pairs of letters of flags and one more in front of a joiner. -/
  | joinedLetterAndFlags
  /-- The end of a tag, with some letters of it, in front of a joiner. -/
  | joinedTag (letters : Nat)
  /-- Digits of a tag, and what follows them, in front of a joiner. -/
  | joinedTagDigits (digits : Nat)
  deriving DecidableEq, Repr

namespace Picture

/-- What a single character gives characters in front of it to become a picture
with. -/
def ofChar? (c : Char) : Option Picture :=
  if isFlagLetter c then some .flagLetter
  else if isSkinTone c then some .skinTone
  else if isPicture c then some .whole
  else none

/-- Whether the picture behind takes the columns of the one in front of it, which a
selector of pictures may follow. -/
def keepsSelector : Picture → Bool
  | .joiner | .keycap => true
  | _ => false

/-- The most letters in the tag of a flag. -/
def longestTag : Nat := 6

/-- The tag of a flag with one more character in front. -/
def taggedBy? (c : Char) : Picture → Option Picture
  | .joinedTag letters =>
    if isTagLetter c && letters < longestTag then some (.joinedTag (letters + 1))
    else if isTagDigit c && letters ≤ 4 then some (.joinedTagDigits 1)
    else if c == taggedFlag && 3 ≤ letters then some .whole
    else none
  | .joinedTagDigits digits =>
    if isTagDigit c && digits < 3 then some (.joinedTagDigits (digits + 1))
    else if c == taggedFlag && digits = 3 then some .whole
    else none
  | _ => none

/-- The columns that a character adds in front of what it becomes a picture with,
and what the whole begins with. A flag in front of a joiner takes no column of its
own; of its letters, read from the end, the first takes one, the second takes it
back, and the third takes three, since it may belong to a flag before. -/
def precededBy? (c : Char) : Picture → Option (Int × Picture)
  | .skinTone =>
    if isModifierBase c then some (0, .whole)
    else if c == Text.joiner then some (0, .joiner)
    else none
  | .flagLetter => if isFlagLetter c then some (1, .flagLetters) else none
  | .flagLetters =>
    if isFlagLetter c then some (1, .flagLetters)
    else if c == Text.joiner then some (0, .joiner)
    else none
  | .joiner =>
    if c == Text.keycap then some (0, .keycap)
    else if isFlagLetter c then some (1, .joinedLetter)
    else if isSkinTone c then some (0, .skinTone)
    else if c == tagEnd then some (0, .joinedTag 0)
    else if isPicture c then some (0, .whole)
    else none
  | .keycap => none
  | .joinedLetter => if isFlagLetter c then some (-1, .joinedFlags) else none
  | .joinedFlags =>
    if isFlagLetter c then some (3, .joinedLetterAndFlags)
    else if c == Text.joiner then some (0, .joiner)
    else none
  | .joinedLetterAndFlags =>
    if isFlagLetter c then some (-1, .joinedFlags)
    else if c == Text.joiner then some (0, .joiner)
    else none
  | .whole => if c == Text.joiner then some (0, .joiner) else none
  | .joinedTag letters => (taggedBy? c (.joinedTag letters)).map fun p => (0, p)
  | .joinedTagDigits digits => (taggedBy? c (.joinedTagDigits digits)).map fun p => (0, p)

end Picture

end Instrumentation.Text
