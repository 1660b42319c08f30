import Instrumentation.Format.Json
import Instrumentation.Format.Yaml.Scalar
/-
  Data as YAML

  Objects and arrays are written in block form, each member and each item on lines
  of its own. A member of an object stands two columns right of it; an array that
  is a member begins in the column of its object. Every text below ends with the
  end of a line.
-/

namespace Instrumentation.Format.Yaml

/-- A text with an end of line behind it, unless it has one already. -/
def endLine (text : List Char) : List Char :=
  if text.getLast?.any isBreak then text else text ++ ['\n']

/-- The longest key in bytes that stands on one line with its value. -/
def longestSimpleKey : Nat := 128

/-- Whether a key stands on one line with its value. -/
def isSimpleKey (name : String) : Bool :=
  !name.toList.any isBreak && name.utf8ByteSize ≤ longestSimpleKey

/-- What stands between the colon behind a simple key and its value, and the column
of the value. -/
def gap (column : Nat) : Json → List Char × Nat
  | .array (_ :: _) => ('\n' :: blanks column, column)
  | .object (_ :: _) => ('\n' :: blanks (column + 2), column + 2)
  | _ => ([' '], column + 2)

/-- What stands in front of the value of a member, and the column of the value. -/
def memberLead (column : Nat) (name : String) (value : Json) : List Char × Nat :=
  if isSimpleKey name then
    let (space, inner) := gap column value
    (scalar (column + 2) name ++ ':' :: space, inner)
  else
    ('?' :: ' ' :: endLine (scalar (column + 2) name) ++ blanks column ++ [':', ' '], column + 2)

mutual

/-- The text of a value that begins at a column. -/
def block (column : Nat) : Json → List Char
  | .bool value => endLine (if value then "true" else "false").toList
  | .number value => endLine (Nat.toDigits 10 value)
  | .string value => endLine (scalar column value)
  | .array [] => endLine ['[', ']']
  | .array (item :: items) =>
    '-' :: ' ' :: block (column + 2) item ++ moreItems column items
  | .object [] => endLine ['\x7b', '\x7d']
  | .object ((name, value) :: members) =>
    let (lead, inner) := memberLead column name value
    lead ++ block inner value ++ moreMembers column members

/-- The items of an array behind its first. -/
def moreItems (column : Nat) : List Json → List Char
  | [] => []
  | item :: items =>
    blanks column ++ '-' :: ' ' :: block (column + 2) item ++ moreItems column items

/-- The members of an object behind its first. -/
def moreMembers (column : Nat) : List (String × Json) → List Char
  | [] => []
  | (name, value) :: members =>
    let (lead, inner) := memberLead column name value
    blanks column ++ lead ++ block inner value ++ moreMembers column members

end

def text (value : Json) : String :=
  let column := match value with
    | .string _ => 2
    | _ => 0
  String.ofList (block column value)

end Instrumentation.Format.Yaml
