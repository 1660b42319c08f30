import Instrumentation.Text.Digit
import Instrumentation.Xml.Lexeme
/-
  Character data

  What the text between tags and the values of attributes stand for. References
  to characters are replaced by the characters; there are five named ones and no
  way to declare more. Line ends become line feeds in text and spaces in
  attribute values, but a character that was written as a reference is kept as it
  is. A return in text is also kept when a reference follows it, or when a
  reference stands right before it and nothing after it.
-/

namespace Instrumentation.Xml

/-- One character of character data and how it was written. -/
inductive Piece where
  | literal (c : Char)
  | reference (c : Char)
  deriving DecidableEq, Repr

def Piece.char : Piece → Char
  | literal c => c
  | reference c => c

def namedChar : String → Option Char
  | "lt" => some '<'
  | "gt" => some '>'
  | "amp" => some '&'
  | "quot" => some '"'
  | "apos" => some '\x27'
  | _ => none

inductive Reference where
  | character (c : Char)
  | unknown (name : String)
  deriving DecidableEq, Repr

namespace Reference

def baseOf (hexadecimal : Bool) : Nat := if hexadecimal then 16 else 10

def isDigitOf (hexadecimal : Bool) (c : Char) : Bool :=
  (Text.digit? (baseOf hexadecimal) c).isSome

def number (hexadecimal : Bool) (digits : List Char) : Nat :=
  digits.foldl (fun n c => n * baseOf hexadecimal + Text.digitValue c) 0

/-- The character with the given number, or U+FFFD if no character has it. -/
def charOfNumber (n : Nat) : Char :=
  if n.isValidChar then Char.ofNat n else '\uFFFD'

/-- The character that a numeric reference names. There must be a digit, the
number must fit in 32 bits and the character must be one a document may hold. -/
def numbered (hexadecimal : Bool) (digits : List Char) : Option Char :=
  let n := number hexadecimal digits
  if digits.isEmpty || n ≥ Nat.pow 2 32 || !isDocumentChar (charOfNumber n) then none
  else some (charOfNumber n)

/-- Reads what stands between the ampersand and the semicolon. -/
def readBody (cur : Cursor) : Option (Reference × Cursor) :=
  if cur.startsWith ['#', 'x'] then
    let (digits, next) := (cur.drop 2).readWhile (isDigitOf true)
    (numbered true digits).map fun c => (character c, next)
  else if cur.startsWith ['#'] then
    let (digits, next) := (cur.drop 1).readWhile (isDigitOf false)
    (numbered false digits).map fun c => (character c, next)
  else
    match cur.readName with
    | .ok (name, next) =>
      match namedChar name with
      | some c => some (character c, next)
      | none => some (unknown name, next)
    | .error _ => none

theorem readBody_length_le {cur next : Cursor} {reference : Reference}
    (h : readBody cur = some (reference, next)) :
    next.rest.length ≤ cur.rest.length := by
  simp only [readBody] at h
  split at h
  · simp only [Option.map_eq_some_iff, Prod.mk.injEq] at h
    obtain ⟨c, _, _, rfl⟩ := h
    exact Nat.le_trans (Cursor.readWhile_length_le _ _) (Cursor.drop_length_le _ _)
  · split at h
    · simp only [Option.map_eq_some_iff, Prod.mk.injEq] at h
      obtain ⟨c, _, _, rfl⟩ := h
      exact Nat.le_trans (Cursor.readWhile_length_le _ _) (Cursor.drop_length_le _ _)
    · split at h
      · next hn =>
        split at h <;> cases h <;> exact Cursor.readName_length_le hn
      · cases h

/-- Reads a reference, from its ampersand to its semicolon. -/
def read (cur : Cursor) : Option (Reference × Cursor) :=
  match readBody (cur.drop 1) with
  | none => none
  | some (reference, next) =>
    match next.expect ';' with
    | .ok closed => some (reference, closed)
    | .error _ => none

theorem read_length_lt {cur next : Cursor} {reference : Reference}
    (h : read cur = some (reference, next)) : next.rest.length < cur.rest.length := by
  simp only [read] at h
  split at h
  · cases h
  · next hb =>
    split at h
    · next hs =>
      cases h
      have := Cursor.expect_length_lt hs
      have := readBody_length_le hb
      have := cur.drop_length_le 1
      omega
    · cases h

end Reference

namespace Piece

def read (cur : Cursor) : Except ReadError (List Piece) :=
  go cur []
where
  /-- `run` holds the pieces read, the latest first. -/
  go (cur : Cursor) (run : List Piece) : Except ReadError (List Piece) :=
    match hr : cur.rest with
    | [] => .ok run.reverse
    | c :: _ =>
      if c == '&' then
        match hn : Reference.read cur with
        | none => .error (.malformedReference cur.position)
        | some (.unknown name, _) => .error (.unknownEntity name cur.position)
        | some (.character d, next) =>
          have := Reference.read_length_lt hn
          go next (reference d :: run)
      else
        have : (cur.drop 1).rest.length < cur.rest.length := by simp [hr]
        go (cur.drop 1) (literal c :: run)
  termination_by cur.rest.length

/-- The text that a run of pieces stands for between tags. -/
def text (pieces : List Piece) : List Char :=
  go pieces false []
where
  /-- `afterReference` says that the piece before was a reference; `run` holds
  the text so far, the latest character first. -/
  go : List Piece → Bool → List Char → List Char
    | [], _, run => run.reverse
    | reference c :: rest, _, run => go rest true (c :: run)
    | [literal c], afterReference, run =>
      ((if c == '\r' && !afterReference then '\n' else c) :: run).reverse
    | literal c :: reference d :: rest, _, run => go rest true (d :: c :: run)
    | literal c :: literal d :: rest, _, run =>
      if c == '\r' then
        if d == '\n' then go rest false ('\n' :: run)
        else go (literal d :: rest) false ('\n' :: run)
      else go (literal d :: rest) false (c :: run)

/-- The value that a run of pieces stands for in an attribute. -/
def attributeValue (pieces : List Piece) : List Char :=
  go pieces []
where
  /-- `run` holds the value so far, the latest character first. -/
  go : List Piece → List Char → List Char
    | [], run => run.reverse
    | reference c :: rest, run => go rest (c :: run)
    | literal c :: rest, run =>
      if c == '\r' && rest.head? == some (literal '\n') then go rest run
      else if c == '\t' || c == '\n' || c == '\r' then go rest (' ' :: run)
      else go rest (c :: run)

end Piece

end Instrumentation.Xml
