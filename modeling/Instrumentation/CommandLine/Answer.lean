/-
  Answers

  What a command leaves behind besides its log: the number with which the program
  ends, what it prints, and what it complains of.
-/

namespace Instrumentation.CommandLine

structure Answer where
  /-- The number with which the program ends; zero stands for success. -/
  exit : Nat := 0
  output : String := ""
  complaint : String := ""
  deriving DecidableEq, Repr

/-- A text whose lines behind the first are indented. -/
def indentedBy (n : Nat) (s : String) : String :=
  String.ofList (('\n' :: List.replicate n ' ').intercalate (s.toList.splitOn '\n'))

/-- A number with blanks in front up to five columns. -/
def numeral (n : Nat) : String := String.ofList ((Nat.toDigits 10 n).leftpad 5 ' ')

/-- The lines about what led to an error. Several causes are numbered. -/
def causeLines : List String → List String
  | [] => []
  | [cause] => ["", "Caused by:", "    " ++ indentedBy 4 cause]
  | causes =>
    ["", "Caused by:"] ++
      causes.zipIdx.map fun (cause, n) => numeral n ++ ": " ++ indentedBy 7 cause

/-- A text of lines, each with a line break at its end. -/
def ofLines (lines : List String) : String := String.join (lines.map (· ++ "\n"))

def Answer.failure (message : String) (causes : List String := []) : Answer :=
  { exit := 1, complaint := ofLines (("Error: " ++ message) :: causeLines causes) }

end Instrumentation.CommandLine
