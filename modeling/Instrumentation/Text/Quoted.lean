import Instrumentation.Text.Invisible
import Instrumentation.Text.Extending
/-
  Quoted text in diagnostics

  How a text shows itself in a log field or a description of a value: between
  quotation marks, with every character escaped that would not be seen or would
  end the quotation. Lists of texts stand in brackets.
-/

namespace Instrumentation.Text

/-- The written form of one character between quotation marks. -/
def escapedChar (c : Char) : List Char :=
  if c == '"' then ['\\', '"']
  else if c == '\\' then ['\\', '\\']
  else if c == '\n' then ['\\', 'n']
  else if c == '\r' then ['\\', 'r']
  else if c == '\t' then ['\\', 't']
  else if c.toNat == 0 then ['\\', '0']
  else if isExtending c || isInvisible c then
    ['\\', 'u', '\x7b'] ++ Nat.toDigits 16 c.toNat ++ ['\x7d']
  else [c]

def quoted (s : String) : String :=
  String.ofList ('"' :: s.toList.flatMap escapedChar ++ ['"'])

def quotedList (items : List String) : String :=
  "[" ++ String.intercalate ", " (items.map quoted) ++ "]"

end Instrumentation.Text
