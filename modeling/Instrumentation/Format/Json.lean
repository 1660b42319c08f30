/-
  JSON

  The values that reports are made of, and their text. Objects keep their members
  in the order they were given. The text differs between layouts only in the white
  space between tokens; strings are escaped the same way in all of them, so a
  control character never stands in a text as it is.
-/

namespace Instrumentation.Format

/-- A value made of flags, whole numbers, strings, arrays and objects. -/
inductive Json where
  | bool (value : Bool)
  | number (value : Nat)
  | string (value : String)
  | array (items : List Json)
  | object (members : List (String × Json))

namespace Json

/-- The white space of a text. -/
structure Layout where
  /-- What stands before an item, or before a closing bracket, at a depth. -/
  breakAt : Nat → List Char
  /-- What stands between the name of a member and its value. -/
  colon : List Char

def Layout.compact : Layout := ⟨fun _ => [], [':']⟩

/-- Every item on a line of its own, indented by two blanks a depth. -/
def Layout.indented : Layout :=
  ⟨fun depth => '\n' :: List.replicate (2 * depth) ' ', [':', ' ']⟩

/-- The two digits of a number below 256 to the base sixteen. -/
def hexPair (n : Nat) : List Char := [Nat.digitChar (n / 16), Nat.digitChar (n % 16)]

/-- The written form of one character in a string. -/
def escapedChar (c : Char) : List Char :=
  if c == '"' then ['\\', '"']
  else if c == '\\' then ['\\', '\\']
  else if c == '\n' then ['\\', 'n']
  else if c == '\r' then ['\\', 'r']
  else if c == '\t' then ['\\', 't']
  else if c == '\x08' then ['\\', 'b']
  else if c == '\x0c' then ['\\', 'f']
  else if c.toNat < 0x20 then ['\\', 'u', '0', '0'] ++ hexPair c.toNat
  else [c]

def quoted (s : String) : List Char := '"' :: s.toList.flatMap escapedChar ++ ['"']

mutual

/-- The text of a value that stands at a depth. -/
def written (layout : Layout) (depth : Nat) : Json → List Char
  | bool value => (if value then "true" else "false").toList
  | number value => Nat.toDigits 10 value
  | string value => quoted value
  | array [] => ['[', ']']
  | array (item :: items) =>
    '[' :: layout.breakAt (depth + 1) ++ written layout (depth + 1) item ++
      writtenItems layout depth items
  | object [] => ['\x7b', '\x7d']
  | object ((name, value) :: members) =>
    '\x7b' :: layout.breakAt (depth + 1) ++ quoted name ++ layout.colon ++
      written layout (depth + 1) value ++ writtenMembers layout depth members

/-- The items of an array behind its first, and the end of the array. -/
def writtenItems (layout : Layout) (depth : Nat) : List Json → List Char
  | [] => layout.breakAt depth ++ [']']
  | item :: items =>
    ',' :: layout.breakAt (depth + 1) ++ written layout (depth + 1) item ++
      writtenItems layout depth items

/-- The members of an object behind its first, and the end of the object. -/
def writtenMembers (layout : Layout) (depth : Nat) : List (String × Json) → List Char
  | [] => layout.breakAt depth ++ ['\x7d']
  | (name, value) :: members =>
    ',' :: layout.breakAt (depth + 1) ++ quoted name ++ layout.colon ++
      written layout (depth + 1) value ++ writtenMembers layout depth members

end

def compact (value : Json) : String := String.ofList (value.written .compact 0)
def pretty (value : Json) : String := String.ofList (value.written .indented 0)

end Json

end Instrumentation.Format
