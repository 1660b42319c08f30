import Instrumentation.Text.Digit
/-
  Numbers in settings

  A number is an optional plus sign and one or more ASCII digits, and it has to be
  below 2 ^ 64. The reader goes from left to right and names the first thing that
  is wrong: a character that is no digit, or a digit that makes the number too
  large.
-/

namespace Instrumentation.Text

inductive NumberError where
  | empty
  | invalidDigit
  | tooLarge
  deriving DecidableEq, Repr

def NumberError.message : NumberError → String
  | empty => "cannot parse integer from empty string"
  | invalidDigit => "invalid digit found in string"
  | tooLarge => "number too large to fit in target type"

/-- Reads digits behind those that made `value`. -/
def readDigits (value : Nat) : List Char → Except NumberError Nat
  | [] => .ok value
  | c :: rest =>
    match digit? 10 c with
    | none => .error .invalidDigit
    | some d =>
      if value * 10 + d < UInt64.size then readDigits (value * 10 + d) rest
      else .error .tooLarge

def readNumber : List Char → Except NumberError Nat
  | [] => .error .empty
  | '+' :: [] => .error .invalidDigit
  | '+' :: digits => readDigits 0 digits
  | digits => readDigits 0 digits

def number (s : String) : Except NumberError UInt64 :=
  (readNumber s.toList).map UInt64.ofNat

end Instrumentation.Text
