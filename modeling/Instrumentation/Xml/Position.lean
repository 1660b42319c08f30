/-
  Positions in a document

  A position counts lines and columns from one; a column is a character, and
  only a line feed starts a new line. A cursor is what is left to read together
  with the position of its first character.
-/

namespace Instrumentation.Xml

structure Position where
  line : Nat
  column : Nat
  deriving DecidableEq, Repr, Inhabited

namespace Position

def start : Position := ⟨1, 1⟩

/-- The place behind the character `c` that stands at `p`. -/
def after (p : Position) (c : Char) : Position :=
  if c == '\n' then ⟨p.line + 1, 1⟩ else ⟨p.line, p.column + 1⟩

/-- The place behind a run of characters that begins at `p`. -/
def afterAll (p : Position) (cs : List Char) : Position :=
  cs.foldl after p

/-- The written form, `line:column`. -/
def text (p : Position) : String :=
  toString p.line ++ ":" ++ toString p.column

end Position

/-- The unread part of a document and where it begins. -/
structure Cursor where
  rest : List Char
  position : Position
  deriving DecidableEq, Repr, Inhabited

namespace Cursor

def ofChars (cs : List Char) : Cursor := ⟨cs, .start⟩

def drop (cur : Cursor) (n : Nat) : Cursor :=
  ⟨cur.rest.drop n, cur.position.afterAll (cur.rest.take n)⟩

def startsWith (cur : Cursor) (lead : List Char) : Bool :=
  lead.isPrefixOf cur.rest

/-- Reads the longest run of characters that satisfy `p`. -/
def readWhile (p : Char → Bool) (cur : Cursor) : List Char × Cursor :=
  let run := cur.rest.takeWhile p
  (run, ⟨cur.rest.dropWhile p, cur.position.afterAll run⟩)

@[simp] theorem drop_rest (cur : Cursor) (n : Nat) :
    (cur.drop n).rest = cur.rest.drop n := rfl

/-- What is read and what is left make up what there was. -/
theorem readWhile_append (p : Char → Bool) (cur : Cursor) :
    (cur.readWhile p).1 ++ (cur.readWhile p).2.rest = cur.rest :=
  List.takeWhile_append_dropWhile

theorem readWhile_length_le (p : Char → Bool) (cur : Cursor) :
    (cur.readWhile p).2.rest.length ≤ cur.rest.length := by
  have h := congrArg List.length (readWhile_append p cur)
  simp only [List.length_append] at h
  omega

theorem drop_length_le (cur : Cursor) (n : Nat) :
    (cur.drop n).rest.length ≤ cur.rest.length := by
  simp

end Cursor

end Instrumentation.Xml
