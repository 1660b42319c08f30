import Instrumentation.Text.Ligature
import Instrumentation.Text.Picture
import Instrumentation.Text.Wide
/-
  Display width

  How many columns of a fixed-width display a line of text takes: two for a wide
  character and for a picture of one or more characters, none for a character that
  is drawn onto another or not at all, and one for any other, control characters
  among them. Letters that are drawn as one share their columns. A line is measured
  from its end, since what stands behind a character decides what it takes.

  `width_of_ascii`: a line of ASCII takes as many columns as it has characters.
-/

namespace Instrumentation.Text

/-- The columns of a character on its own. -/
def charWidth (c : Char) : Nat :=
  if c.toNat ≤ 0xA0 then 1
  else if c.toNat = 0x17A4 then 2
  else if c.toNat = 0x17D8 then 3
  else if isUnseen c then 0
  else if isWide c then 2
  else 1

/-- What the rest of a line begins with. -/
inductive Start where
  | other
  | ligature (ligature : Ligature)
  | picture (picture : Picture)
  deriving DecidableEq, Repr

/-- How a character asks to be shown by the selector behind it. -/
inductive Selection where
  | asText
  | asPicture
  deriving DecidableEq, Repr

/-- The rest of a line as far as the character in front of it is concerned: what it
begins with, and a selector in front of that. -/
structure Behind where
  start : Start
  selection : Option Selection
  deriving DecidableEq, Repr

namespace Start

def ofChar (c : Char) : Start :=
  match Ligature.ofChar? c, Picture.ofChar? c with
  | some letters, _ => .ligature letters
  | none, some shown => .picture shown
  | none, none => .other

/-- What is left when a selector in front of it selects nothing. -/
def unselected : Start → Start
  | .ligature letters => if letters.keepsSelector then .ligature letters else .other
  | _ => .other

/-- What a selector of pictures leaves to the character in front of it. -/
def behindSelector : Start → Start
  | .ligature letters => if letters.keepsSelector then .ligature letters else .other
  | .picture shown => if shown.keepsSelector then .picture shown else .other
  | .other => .other

/-- The columns of a picture that is selected in front: none if it becomes one with
a picture behind it. -/
def selectedWidth : Start → Int
  | .picture shown => if shown.keepsSelector then 0 else 2
  | _ => 2

/-- The columns that a character adds in front of what it is shown as one with. -/
def precededBy? (c : Char) : Start → Option (Int × Start)
  | .ligature letters =>
    match letters.behindMark? c with
    | some inner => some (0, .ligature inner)
    | none =>
      (letters.precededBy? c).map fun (columns, joined) =>
        (columns, joined.elim Start.other Start.ligature)
  | .picture shown => (shown.precededBy? c).map fun (columns, joined) => (columns, .picture joined)
  | .other => none

end Start

namespace Behind

def nothing : Behind := ⟨.other, none⟩
def plain (start : Start) : Behind := ⟨start, none⟩

/-- The columns that a character adds that is not selected, and what the longer
line begins with. -/
def unselectedStep (c : Char) (start : Start) : Int × Behind :=
  match start.precededBy? c with
  | some (columns, joined) => (columns, plain joined)
  | none => (charWidth c, plain (.ofChar c))

/-- The columns that a character adds in front of a line that is not selected as a
picture, and what the longer line begins with. -/
def step (c : Char) (behind : Behind) : Int × Behind :=
  if c.toNat ≤ 0xA0 then (1, nothing)
  else if c == pictureSelector then
    (0, ⟨behind.start.behindSelector, some .asPicture⟩)
  else if c == textSelector then
    (0, ⟨behind.start.unselected, some .asText⟩)
  else if behind.selection = some .asText && narrowsAsText c then (1, nothing)
  else unselectedStep c behind.start

/-- The columns that a character adds, and what the longer line begins with. -/
def add (c : Char) (behind : Behind) : Int × Behind :=
  if behind.selection = some .asPicture then
    if isSelectable c then (behind.start.selectedWidth, plain (.picture .whole))
    else step c (plain behind.start.unselected)
  else step c behind

end Behind

/-- The columns of a line, and what it begins with. -/
def measured : List Char → Int × Behind
  | [] => (0, .nothing)
  | c :: rest =>
    let (columns, behind) := measured rest
    let (added, longer) := behind.add c
    (columns + added, longer)

/-- The columns that a line takes. -/
def width (cs : List Char) : Nat := (measured cs).1.toNat

/-- A line of ASCII is measured character by character: none waits for another. -/
theorem measured_of_ascii {cs : List Char} (h : ∀ c ∈ cs, c.toNat < 0x80) :
    measured cs = ((cs.length : Int), Behind.nothing) := by
  induction cs with
  | nil => rfl
  | cons c rest ih =>
    have hc : c.toNat ≤ 0xA0 := Nat.le_trans (Nat.le_of_lt (h c (.head _))) (by decide)
    have hrest := ih fun d hd => h d (.tail _ hd)
    simp [measured, hrest, Behind.add, Behind.step, Behind.nothing, hc]

theorem width_of_ascii {cs : List Char} (h : ∀ c ∈ cs, c.toNat < 0x80) :
    width cs = cs.length := by
  simp [width, measured_of_ascii h]

end Instrumentation.Text
