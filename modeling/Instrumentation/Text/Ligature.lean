import Instrumentation.Text.Emoji
import Instrumentation.Text.Unseen
/-
  Letters that are drawn as one

  In some scripts letters that follow each other share a column. A line is looked
  at from its end: the letter behind is known, and the character in front of it
  says what the two take together. A ligature is what the rest of a line begins
  with, if a character in front of it may be drawn into it.
-/

namespace Instrumentation.Text

/-- What letters in front may be drawn into. `joined` says that a joiner stands in
front of the letter. -/
inductive Ligature where
  /-- The second letter of the Arabic pair of lam and alef. -/
  | alef
  /-- The second letter of the Hebrew pair of alef and lamed. -/
  | lamed (joined : Bool)
  /-- The last letter of the Buginese ligature of a, i and ya. -/
  | ya (joined : Bool)
  /-- The Buginese vowel sign i in front of a joined ya. -/
  | vowelAndYa
  /-- A consonant of Tifinagh. -/
  | consonant (joined : Bool)
  /-- A consonant of Tifinagh with a consonant joiner in front of it. -/
  | joinerAndConsonant
  /-- The second letter of a pair of tone letters of Lisu. -/
  | toneLetter
  /-- The second letter of the Old Turkic pair of ec and i. -/
  | orkhonI (joined : Bool)
  /-- A Khmer letter that can be written below another. -/
  | subscriptLetter
  /-- The vowel sign e of Kirat Rai. -/
  | vowelE
  /-- The vowel sign ai of Kirat Rai. -/
  | vowelAi
  deriving DecidableEq, Repr

/-- Ranges of the Arabic letters of the group of alef. -/
def alefRanges : List (Nat × Nat) :=
  [(0x622, 0x623), (0x625, 0x625), (0x627, 0x627), (0x671, 0x673), (0x675, 0x675),
   (0x773, 0x774), (0x870, 0x882)]

/-- Ranges of the Arabic letters of the group of lam. -/
def lamRanges : List (Nat × Nat) :=
  [(0x644, 0x644), (0x6B5, 0x6B8), (0x76A, 0x76A), (0x8A6, 0x8A6), (0x8C7, 0x8C7)]

/-- Ranges of the Khmer letters that can be written below another. -/
def subscriptRanges : List (Nat × Nat) :=
  [(0x1780, 0x1782), (0x1784, 0x1787), (0x1789, 0x178C), (0x178E, 0x1793),
   (0x1795, 0x1798), (0x179B, 0x179D), (0x17A0, 0x17A0), (0x17A2, 0x17A2),
   (0x17A7, 0x17A7), (0x17AB, 0x17AC), (0x17AF, 0x17AF)]

def tifinaghConsonantRanges : List (Nat × Nat) := [(0x2D31, 0x2D65), (0x2D6F, 0x2D6F)]

namespace Ligature

/-- What a single letter gives letters in front of it to be drawn into. -/
def ofChar? (c : Char) : Option Ligature :=
  if c.toNat < 0x5DC then none
  else if c.toNat = 0x5DC then some (.lamed false)
  else if liesIn alefRanges c then some .alef
  else if liesIn subscriptRanges c then some .subscriptLetter
  else if c.toNat = 0x1A10 then some (.ya false)
  else if liesIn tifinaghConsonantRanges c then some (.consonant false)
  else if liesIn [(0xA4FC, 0xA4FD)] c then some .toneLetter
  else if c.toNat = 0x10C03 then some (.orkhonI false)
  else if c.toNat = 0x16D67 then some .vowelE
  else if c.toNat = 0x16D68 then some .vowelAi
  else none

/-- A ligature behind a mark that a display may ignore, if the mark does not part
it. Only a joiner changes what the ligature waits for. -/
def behindMark? (c : Char) : Ligature → Option Ligature
  | .alef | .vowelE | .vowelAi => none
  | .lamed joined => if isIgnoredMark c then some (.lamed (joined || c == joiner)) else none
  | .ya joined => if isIgnoredMark c then some (.ya (joined || c == joiner)) else none
  | .consonant joined =>
    if isIgnoredMark c then some (.consonant (joined || c == joiner)) else none
  | .orkhonI joined => if isIgnoredMark c then some (.orkhonI (joined || c == joiner)) else none
  | ligature => if isIgnoredMark c then some ligature else none

/-- Whether a ligature remains one behind a selector of text or picture. -/
def keepsSelector : Ligature → Bool
  | .vowelE | .vowelAi => false
  | _ => true

/-- The columns that a character adds in front of what it is drawn into, and what
the whole gives to be drawn into. Less than none is added by a character that takes
back the column of the letter behind it. -/
def precededBy? (c : Char) : Ligature → Option (Int × Option Ligature)
  | .alef =>
    if liesIn lamRanges c then some (0, none)
    else if isTransparent c then some (0, some .alef)
    else none
  | .lamed true => if c.toNat = 0x5D0 then some (0, none) else none
  | .lamed false => none
  | .subscriptLetter => if c.toNat = 0x17D2 then some (-1, none) else none
  | .ya true => if c.toNat = 0x1A17 then some (0, some .vowelAndYa) else none
  | .ya false => none
  | .vowelAndYa => if c.toNat = 0x1A15 then some (0, none) else none
  | .consonant joined =>
    if c.toNat = 0x2D7F then some (1, some .joinerAndConsonant)
    else if joined && liesIn tifinaghConsonantRanges c then some (0, none)
    else none
  | .joinerAndConsonant =>
    if liesIn tifinaghConsonantRanges c then some (-1, none) else none
  | .toneLetter => if liesIn [(0xA4F8, 0xA4FB)] c then some (0, none) else none
  | .orkhonI true => if c.toNat = 0x10C32 then some (0, none) else none
  | .orkhonI false => none
  | .vowelE =>
    if c.toNat = 0x16D63 || c.toNat = 0x16D69 then some (0, none)
    else if c.toNat = 0x16D67 then some (0, some .vowelAi)
    else if c.toNat = 0x16D68 then some (1, some .vowelE)
    else none
  | .vowelAi => if c.toNat = 0x16D63 then some (0, none) else none

end Ligature

end Instrumentation.Text
